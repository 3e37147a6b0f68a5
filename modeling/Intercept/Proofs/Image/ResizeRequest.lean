/-
# Requests for scaled images: what was packed is unpacked

Every request with a width that there is comes back from its directive, whatever its texts hold, if
neither of them is empty.
-/
import Intercept.Image.ResizeRequest
import Intercept.Proofs.SendData

namespace Intercept

namespace ResizeRequest

/-- A request is written as a record of two texts and a number. -/
lemma written_toJson (request : ResizeRequest) : request.toJson.Written := by
  refine .object fun member hmember => ?_
  simp only [List.mem_cons, List.not_mem_nil, or_false] at hmember
  rcases hmember with rfl | rfl | rfl
  · exact Json.written_text request.location
  · exact Json.written_text request.contentType
  · exact .nat request.width

/-- A request is read from the record that describes it, if there is such a width. -/
lemma ofJson?_toJson {request : ResizeRequest} (hwidth : request.width ≤ maxWidth) :
    ofJson? request.toJson = some request := by
  -- the three keys are different
  have hfirst : (Utf8.encode "Location" == Utf8.encode "ContentType") = false ∧
      (Utf8.encode "Location" == Utf8.encode "Width") = false := by decide +kernel
  have hsecond : (Utf8.encode "ContentType" == Utf8.encode "Location") = false ∧
      (Utf8.encode "ContentType" == Utf8.encode "Width") = false := by decide +kernel
  have hthird : (Utf8.encode "Width" == Utf8.encode "Location") = false ∧
      (Utf8.encode "Width" == Utf8.encode "ContentType") = false := by decide +kernel
  have hfields : Json.fields? ["Location", "ContentType", "Width"] request.toJson
      = some [some (.text request.location), some (.text request.contentType),
          some (.nat request.width)] := by
    simp [Json.fields?, Json.soleValue?, Json.valuesOf, toJson, hfirst, hsecond, hthird]
  have hnumber : (Json.nat request.width).nat? = some request.width :=
    Decimal.decimal?_encode_toString request.width
  have htext : ∀ s : String, (Json.text s).text? = some s := Utf8.decode?_encode
  simp only [ofJson?, hfields, htext, hnumber, Option.bind_eq_bind, Option.bind_some,
    if_pos hwidth]

/-- **A directive is read as what it was packed from.**  From the directive of a request with any
texts and any width the same request is unpacked, whether or not what fills up the directive is
there.  Only if a text is empty there is an error, that of the location first. -/
theorem unpack_of_pack (location contentType : String) (width : UInt32) :
    let request : ResizeRequest := ⟨location, contentType, width.toNat⟩
    let found : Except Error ResizeRequest :=
      if location = "" then .error .emptyLocation
      else if contentType = "" then .error .emptyContentType
      else .ok request
    unpack (pack request) = found ∧ unpack (SendData.unpadded (pack request)) = found := by
  intro request found
  have hwidth : request.width ≤ maxWidth := Nat.le_of_lt_succ width.toNat_lt
  have hsame := SendData.unpack_pack kind ofJson? (written_toJson request)
  rw [ofJson?_toJson hwidth] at hsame
  have hchecked : ∀ {data : String}, SendData.unpack kind ofJson? data = .ok request →
      unpack data = found := by
    intro data hdata
    rw [unpack, hdata]
    simp only [String.isEmpty_iff, found, request]
  exact ⟨hchecked hsame.1, hchecked hsame.2⟩

end ResizeRequest

end Intercept
