/-
# What is stored

For each part of a form that holds a file, what is stored is made of the data of the part: it is the
whole output of the program that removes metadata, or the whole content of an entry of an archive,
or the data itself.  So the data of an image with metadata is never stored in place of the output of
the program.
-/
import Intercept.Proofs.Upload.NewForm

namespace Intercept

namespace Deposit

variable {surroundings : Surroundings} {settings : Settings} {site after : Site}

/-- **What is stored.**  Whenever a client's form is rewritten, however it arrived, each part that
holds a file has left a file that the new form reports, and the contents of this file are what may be
made of the data of the part. -/
theorem deposited_of_make (hfresh : surroundings.chance.Fresh) {headers : Headers}
    {boundary : Bytes} (hboundary : headers.boundary? = some boundary) {limit : Nat}
    {stream : Stream String} {deposit : Deposit} {writer : FormWriter}
    (hrun : (make surroundings settings (Form.readNamed ⟨boundary, limit⟩ stream)).run site
      = (deposit, after))
    (hform : deposit.form = .ok writer) :
    let body := stream.deliver.bytes
    let contents := (Form.read ⟨boundary, body.length⟩ (Stream.once body)).contents
    ∃ entries files,
      Deposited surroundings settings after.disk site.saves contents entries files ∧
      IsReadAs writer entries := by
  intro body contents
  obtain ⟨-, entries, files, h⟩ := remade_of_make_readNamed hfresh hboundary hrun hform
  exact ⟨entries, files, h.deposited, h.readable⟩

/-! ### An image and an archive -/

/-- Surroundings in which the program that removes metadata leaves out two bytes. -/
def strippingSurroundings : Surroundings := { drawnSurroundings with
  program := fun _ => .runs .all fun _ input =>
    ⟨[.piece (input.bytes.drop 2)], [], .exits (.code 0)⟩ }

/-- Settings by which artifacts are taken out, and nothing above four bytes is stored. -/
def extractingSettings : Settings := { plainSettings with grant := ⟨none, true, some 4⟩ }

/-- An archive with one entry of four bytes. -/
def smallArchive : Bytes := [
  80, 75, 3, 4, 20, 0, 0, 0, 0, 0, 0, 0, 33, 0, 53, 20, 242, 215, 4, 0, 0, 0, 4, 0, 0, 0, 11, 0, 0,
  0, 109, 101, 116, 97, 100, 97, 116, 97, 46, 103, 122, 109, 101, 116, 97, 80, 75, 1, 2, 20, 0, 20,
  0, 0, 0, 0, 0, 0, 0, 33, 0, 53, 20, 242, 215, 4, 0, 0, 0, 4, 0, 0, 0, 11, 0, 0, 0, 0, 0, 0, 0, 0,
  0, 0, 0, 128, 1, 0, 0, 0, 0, 109, 101, 116, 97, 100, 97, 116, 97, 46, 103, 122, 80, 75, 5, 6, 0,
  0, 0, 0, 1, 0, 1, 0, 57, 0, 0, 0, 45, 0, 0, 0, 0, 0]

/-- A form with an image and an archive. -/
def imageAndArchive : Stream String := [
  .piece (Utf8.encode ("--X\r\nContent-Disposition: form-data; name=\"f\"; filename=\"t.JPG\"\r\n\r\n"
    ++ "mmdata\r\n--X\r\nContent-Disposition: form-data; name=\"g\"; filename=\"u\"\r\n\r\n")),
  .piece smallArchive,
  .pause,
  .piece (Utf8.encode "\r\n--X--\r\n")]

theorem deposited_of_make_stripping :
    ∃ writer,
      ((make strippingSurroundings extractingSettings
        (Form.readNamed ⟨[88], 1000⟩ imageAndArchive)).run { gate := ⟨1, 0, 0⟩ }).1.form
          = .ok writer ∧
      ∃ entries files,
        Deposited strippingSurroundings extractingSettings
          ((make strippingSurroundings extractingSettings
            (Form.readNamed ⟨[88], 1000⟩ imageAndArchive)).run { gate := ⟨1, 0, 0⟩ }).2.disk 0
          (Form.read ⟨[88], imageAndArchive.deliver.bytes.length⟩
            (Stream.once imageAndArchive.deliver.bytes)).contents entries files ∧
        IsReadAs writer entries := by
  have hfresh : strippingSurroundings.chance.Fresh := fresh_drawnSurroundings
  have hboundary : Headers.boundary?
      [(Header.contentType, Utf8.encode "multipart/form-data; boundary=X")] = some [88] := by
    decide +kernel
  have haccepted : ((make strippingSurroundings extractingSettings
      (Form.readNamed ⟨[88], 1000⟩ imageAndArchive)).run
        { gate := ⟨1, 0, 0⟩ }).1.form.toOption.isSome = true := by
    decide +kernel
  rcases hrun : (make strippingSurroundings extractingSettings
    (Form.readNamed ⟨[88], 1000⟩ imageAndArchive)).run { gate := ⟨1, 0, 0⟩ } with ⟨deposit, after⟩
  rw [hrun] at haccepted
  obtain ⟨writer, hform⟩ := exists_of_isSome haccepted
  exact ⟨writer, hform, deposited_of_make hfresh hboundary hrun hform⟩

end Deposit

end Intercept
