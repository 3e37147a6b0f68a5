/-
# The name of a part, read and written

A name that is written between quotes has its quotes and its backslashes escaped.  Reading takes
the backslash away from a quote and leaves two backslashes as they are.  So a written name is read
back with each of its backslashes doubled: it is read back as it is exactly if it has none.

What is read as a name consists of bytes of the header, and may therefore stand in a header again.
-/
import Intercept.Multipart.Disposition
import Intercept.Proofs.Bytes
import Intercept.Proofs.Http.Header
import Intercept.Proofs.Text.Utf8

namespace Intercept

namespace Disposition

variable {input bytes rest : Bytes} {name : String} {headers : Headers}

/-! ### The bytes of a name -/

lemma quoted?_subset {previous : UInt8} (h : quoted? previous input = some bytes) :
    ∀ b ∈ bytes, b ∈ input := by
  induction input generalizing previous bytes with
  | nil => cases h
  | cons first more ih =>
    rw [quoted?] at h
    split at h
    · obtain rfl := Option.some.inj h
      simp
    · obtain ⟨behind, hbehind, rfl⟩ := Option.map_eq_some_iff.1 h
      intro b hb
      rcases List.mem_cons.1 hb with rfl | hb
      · exact List.mem_cons_self
      · exact List.mem_cons_of_mem _ (ih hbehind b hb)

lemma unescaped_subset : ∀ b ∈ unescaped input, b ∈ input := by
  fun_induction unescaped input with
  | case1 rest ih =>
    intro b hb
    rcases List.mem_cons.1 hb with rfl | hb
    · simp
    · exact List.mem_cons_of_mem _ (List.mem_cons_of_mem _ (ih b hb))
  | case2 first rest _ ih =>
    intro b hb
    rcases List.mem_cons.1 hb with rfl | hb
    · exact List.mem_cons_self
    · exact List.mem_cons_of_mem _ (ih b hb)
  | case3 => simp

lemma value?_subset (h : value? input = some bytes) : ∀ b ∈ bytes, b ∈ input := by
  have hafter : ∀ {first : UInt8} {front behind : Bytes},
      front.dropWhile isBlank = first :: behind → ∀ b ∈ behind, b ∈ front := by
    intro first front behind hdrop b hb
    exact (List.dropWhile_suffix isBlank).subset (hdrop ▸ List.mem_cons_of_mem _ hb)
  unfold value? at h
  split at h
  · next behind hequals =>
    intro b hb
    refine hafter hequals b ?_
    split at h
    · next quoted hquote =>
      obtain ⟨raw, hraw, rfl⟩ := Option.map_eq_some_iff.1 h
      exact hafter hquote b (quoted?_subset hraw b (unescaped_subset b hb))
    · obtain rfl := Option.some.inj h
      exact (List.dropWhile_suffix isBlank).subset ((List.takeWhile_prefix _).subset hb)
  · cases h

lemma attributeLoop_subset {key : Bytes} {fuel : Nat} {previous : Option UInt8}
    (h : attributeLoop key fuel previous input = some bytes) : ∀ b ∈ bytes, b ∈ input := by
  induction fuel generalizing previous input with
  | zero => cases h
  | succ fuel ih =>
    rw [attributeLoop.eq_def] at h
    simp only at h
    split at h
    · split at h
      · exact fun b hb => List.mem_of_mem_drop (value?_subset h b hb)
      · exact fun b hb => List.mem_of_mem_drop (ih h b hb)
    · split at h
      · cases h
      · exact fun b hb => List.mem_cons_of_mem _ (ih h b hb)

/-- What is read from the headers of a part stands in one of them. -/
lemma mem_of_attribute? {key : Bytes} {text : String}
    (h : (headers.first? Header.contentDisposition).bind (attribute? key) = some text) :
    ∃ header ∈ headers, ∀ b ∈ Utf8.encode text, b ∈ header.2 := by
  obtain ⟨value, hvalue, htext⟩ := Option.bind_eq_some_iff.1 h
  obtain ⟨raw, hraw, hdecode⟩ := Option.bind_eq_some_iff.1 htext
  have hmem : value ∈ Headers.values Header.contentDisposition headers :=
    List.mem_of_head? hvalue
  obtain ⟨header, hheader, rfl⟩ := List.mem_map.1 hmem
  refine ⟨header, (List.mem_filter.1 hheader).1, fun b hb => ?_⟩
  rw [Utf8.decode?_eq_some_iff.1 hdecode] at hb
  exact attributeLoop_subset hraw b hb

/-- The bytes of a part's name stand in one of its headers. -/
lemma fieldName?_subset (h : fieldName? headers = some name) :
    ∃ header ∈ headers, ∀ b ∈ Utf8.encode name, b ∈ header.2 := mem_of_attribute? h

/-- The bytes of the name of a file stand in one of the headers of its part. -/
lemma fileName?_subset (h : fileName? headers = some name) :
    ∃ header ∈ headers, ∀ b ∈ Utf8.encode name, b ∈ header.2 := mem_of_attribute? h

/-! ### Escaping -/

/-- Bytes with each backslash twice. -/
def doubledBytes (bytes : Bytes) : Bytes := bytes.flatMap fun b => if b = 92 then [92, 92] else [b]

/-- A text with each backslash twice. -/
def doubled (text : String) : String :=
  String.ofList (text.toList.flatMap fun c => if c = '\\' then ['\\', '\\'] else [c])

lemma escaped_cons (b : UInt8) (bytes : Bytes) :
    escaped (b :: bytes)
      = (if b = 92 then [92, 92] else if b = 34 then [92, 34] else [b]) ++ escaped bytes := rfl

lemma doubledBytes_cons (b : UInt8) (bytes : Bytes) :
    doubledBytes (b :: bytes) = (if b = 92 then [92, 92] else [b]) ++ doubledBytes bytes := rfl

lemma doubledBytes_of_not_mem (hnone : 92 ∉ bytes) : doubledBytes bytes = bytes := by
  induction bytes with
  | nil => rfl
  | cons b more ih =>
    rw [List.mem_cons, not_or] at hnone
    rw [doubledBytes_cons, if_neg (Ne.symm hnone.1), ih hnone.2, List.singleton_append]

/-- No escaped text begins with a quote. -/
lemma escaped_ne_cons_quote : escaped bytes ≠ 34 :: rest := by
  cases bytes with
  | nil => simp [escaped]
  | cons b more =>
    rw [escaped_cons]
    by_cases hback : b = 92
    · simp [hback]
    · by_cases hquote : b = 34
      · simp [hquote]
      · simp [hback, hquote]

lemma unescaped_cons_of_ne {b : UInt8} (h : ¬ (b = 92 ∧ ∃ more, bytes = 34 :: more)) :
    unescaped (b :: bytes) = b :: unescaped bytes := by
  rw [unescaped.eq_def]
  split
  · next more heq =>
    obtain ⟨rfl, rfl⟩ := List.cons.inj heq
    exact absurd ⟨rfl, more, rfl⟩ h
  · next heq =>
    obtain ⟨rfl, rfl⟩ := List.cons.inj heq
    rfl
  · next heq => cases heq

/-- Reading takes back the backslashes of quotes only. -/
lemma unescaped_escaped (bytes : Bytes) : unescaped (escaped bytes) = doubledBytes bytes := by
  induction bytes with
  | nil => rfl
  | cons b more ih =>
    have hmore : ¬ ∃ behind, escaped more = 34 :: behind :=
      fun ⟨_, hbehind⟩ => escaped_ne_cons_quote hbehind
    rw [escaped_cons, doubledBytes_cons]
    by_cases hback : b = 92
    · rw [if_pos hback, if_pos hback, List.cons_append, List.singleton_append,
        unescaped_cons_of_ne (by simp), unescaped_cons_of_ne (fun h => hmore h.2), ih]
      rfl
    · rw [if_neg hback, if_neg hback]
      by_cases hquote : b = 34
      · rw [if_pos hquote, List.cons_append, List.singleton_append, unescaped, ih, hquote]
        rfl
      · rw [if_neg hquote, List.singleton_append, unescaped_cons_of_ne (fun h => hback h.1), ih]
        rfl

/-- What stands between the quotes of a quoted string, where a backslash stands for the byte behind
it. -/
def unquoted : Bytes → Bytes
  | 92 :: b :: rest => b :: unquoted rest
  | b :: rest => b :: unquoted rest
  | [] => []

/-- In a quoted string a written name stands for itself. -/
lemma unquoted_escaped (bytes : Bytes) : unquoted (escaped bytes) = bytes := by
  induction bytes with
  | nil => rfl
  | cons b more ih =>
    rw [escaped_cons]
    split
    · next hback =>
      subst hback
      exact congrArg (92 :: ·) ih
    · next hother =>
      split
      · next hquote =>
        subst hquote
        exact congrArg (34 :: ·) ih
      · have hplain : unquoted (b :: escaped more) = b :: unquoted (escaped more) := by
          rw [unquoted]
          exact fun _ _ hb _ => hother hb
        exact hplain.trans (congrArg (b :: ·) ih)

/-- The quote behind an escaped text is the first that ends it, unless the text ends with a
backslash. -/
lemma quoted?_escaped {previous : UInt8} (hlast : (previous :: bytes).getLast? ≠ some 92)
    (rest : Bytes) : quoted? previous (escaped bytes ++ 34 :: rest) = some (escaped bytes) := by
  induction bytes generalizing previous with
  | nil =>
    rw [List.getLast?_singleton] at hlast
    have hprevious : previous ≠ 92 := fun h => hlast (congrArg some h)
    simp [escaped, quoted?, hprevious]
  | cons b more ih =>
    rw [List.getLast?_cons_cons] at hlast
    have hrest := ih hlast
    rw [escaped_cons]
    by_cases hback : b = 92
    · subst hback
      simp [quoted?, hrest]
    · by_cases hquote : b = 34
      · subst hquote
        simp [quoted?, hrest]
      · simp [quoted?, hback, hquote, hrest]

/-! ### Written names -/

lemma encode_opening : Utf8.encode "form-data; name=\""
    = [102, 111, 114, 109, 45, 100, 97, 116, 97, 59, 32, 110, 97, 109, 101, 61, 34] := by
  decide +kernel

lemma encode_name : Utf8.encode "name" = [110, 97, 109, 101] := by
  decide +kernel

lemma written_eq (name : String) : written name
    = [102, 111, 114, 109, 45, 100, 97, 116, 97, 59, 32] ++ (Utf8.encode "name" ++
        61 :: 34 :: (escaped (Utf8.encode name) ++ [34])) := by
  rw [written, encode_opening, encode_name]
  simp

/-- The bytes of a text with its backslashes doubled. -/
lemma encode_doubled (text : String) :
    Utf8.encode (doubled text) = doubledBytes (Utf8.encode text) := by
  rw [doubled, Utf8.encode_ofList, doubledBytes, Utf8.encode_eq_flatMap, List.flatMap_assoc,
    List.flatMap_assoc]
  refine List.flatMap_congr fun c _ => ?_
  by_cases hback : c = '\\'
  · rw [hback]
    decide
  · rw [if_neg hback, List.flatMap_singleton]
    have hnone : (92 : UInt8) ∉ String.utf8EncodeChar c := by
      intro hmem
      have hcode := (Utf8.mem_utf8EncodeChar_iff (by decide)).1 hmem
      exact hback (Char.toNat_inj.1 hcode)
    exact (doubledBytes_of_not_mem hnone).symm

/-- A name between quotes that does not end with a backslash is read back with its backslashes
doubled. -/
lemma value?_escaped (hlast : (Utf8.encode name).getLast? ≠ some 92) :
    value? (61 :: 34 :: (escaped (Utf8.encode name) ++ [34]))
      = some (Utf8.encode (doubled name)) := by
  have hquoted : quoted? 34 (escaped (Utf8.encode name) ++ [34])
      = some (escaped (Utf8.encode name)) := by
    refine quoted?_escaped ?_ []
    rw [List.getLast?_cons]
    cases h : (Utf8.encode name).getLast? with
    | none => simp
    | some b => simpa [h] using hlast
  rw [encode_doubled, ← unescaped_escaped]
  simp [value?, isBlank, hquoted]

lemma attribute?_written (hlast : (Utf8.encode name).getLast? ≠ some 92) :
    attribute? (Utf8.encode "name") (written name) = some (doubled name) := by
  have hloop : ∀ fuel, attributeLoop (Utf8.encode "name") (fuel + 12) none (written name)
      = some (Utf8.encode (doubled name)) := by
    intro fuel
    rw [written_eq, ← value?_escaped hlast, encode_name]
    simp [attributeLoop, List.isPrefixOf, isBlank]
  have hlength : (written name).length + 1 = ((written name).length - 11) + 12 := by
    rw [written_eq]
    simp only [List.length_append, List.length_cons]
    omega
  rw [attribute?, hlength, hloop]
  exact Utf8.decode?_encode _

lemma first?_contentDisposition (value : Bytes) :
    Headers.first? Header.contentDisposition [(Header.contentDisposition, value)] = some value := by
  simp [Headers.first?, Headers.values]

/-- The name that a written header is read back as. -/
lemma fieldName?_written (hlast : (Utf8.encode name).getLast? ≠ some 92) :
    fieldName? [(Header.contentDisposition, written name)] = some (doubled name) := by
  rw [fieldName?, first?_contentDisposition, Option.bind_some, attribute?_written hlast]

/-! ### Doubled texts -/

lemma doubled_append (front behind : String) :
    doubled (front ++ behind) = doubled front ++ doubled behind := by
  rw [doubled, String.toList_append, List.flatMap_append, String.ofList_append, doubled, doubled]

lemma doubled_of_not_mem {text : String} (hnone : '\\' ∉ text.toList) : doubled text = text := by
  have hchars : text.toList.flatMap (fun c => if c = '\\' then ['\\', '\\'] else [c])
      = text.toList := by
    conv_rhs => rw [← List.flatMap_singleton' text.toList]
    refine List.flatMap_congr fun c hc => ?_
    rw [if_neg]
    rintro rfl
    exact hnone hc
  rw [doubled, hchars, String.ofList_toList]

lemma length_doubled (text : String) :
    (doubled text).toList.length = text.toList.length + text.toList.count '\\' := by
  rw [doubled, String.toList_ofList]
  induction text.toList with
  | nil => rfl
  | cons c more ih =>
    rw [List.flatMap_cons, List.length_append, ih, List.length_cons, List.count_cons]
    by_cases hback : c = '\\'
    · simp only [hback, if_true, beq_self_eq_true, List.length_cons, List.length_nil]
      omega
    · rw [if_neg hback, if_neg (by simpa using hback), List.length_singleton]
      omega

/-- A text with a backslash grows when its backslashes are doubled. -/
lemma length_lt_doubled {text : String} (hback : '\\' ∈ text.toList) :
    text.toList.length < (doubled text).toList.length := by
  have hpositive := List.count_pos_iff.2 hback
  rw [length_doubled]
  omega

/-- An escaped name may stand in a header if its bytes may. -/
lemma isValueByte_escaped (hname : ∀ b ∈ bytes, Header.isValueByte b = true) :
    ∀ b ∈ escaped bytes, Header.isValueByte b = true := by
  intro b hb
  obtain ⟨c, hc, hbc⟩ := List.mem_flatMap.1 hb
  split at hbc
  · simp only [List.mem_cons, List.not_mem_nil, or_false, or_self] at hbc
    exact hbc ▸ rfl
  · split at hbc
    · simp only [List.mem_cons, List.not_mem_nil, or_false] at hbc
      rcases hbc with rfl | rfl
      · rfl
      · rfl
    · exact List.mem_singleton.1 hbc ▸ hname c hc

lemma isValueByte_written (hname : ∀ b ∈ Utf8.encode name, Header.isValueByte b = true) :
    ∀ b ∈ written name, Header.isValueByte b = true := by
  have hopening : ∀ b ∈ Utf8.encode "form-data; name=\"", Header.isValueByte b = true :=
    List.all_eq_true.1 (by decide +kernel)
  intro b hb
  rw [written, List.mem_append, List.mem_append, List.mem_singleton] at hb
  rcases hb with (hb | hb) | rfl
  · exact hopening b hb
  · exact isValueByte_escaped hname b hb
  · rfl

/-- There is no blank at the ends of a written name. -/
lemma trim_written (p : UInt8 → Bool) (hletter : p 102 = false) (hquote : p 34 = false)
    (name : String) : Bytes.trim p (written name) = written name := by
  refine Bytes.trim_eq_self (fun b hb => ?_) (fun b hb => ?_)
  · rw [written, encode_opening] at hb
    obtain rfl := Option.some.inj hb
    exact hletter
  · rw [written, List.getLast?_append] at hb
    obtain rfl := Option.some.inj hb
    exact hquote

end Disposition

end Intercept
