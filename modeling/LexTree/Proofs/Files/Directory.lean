import LexTree.Files.Directory

/-!
# Files by name

- `Directory.exists_read_of_isFile`: a name for which `Directory.isFile` holds is that of
  a file of the directory, and `Directory.read` gives its content.
- `textOfFile_toUTF8`: `textOfFile` decodes the bytes of any text to that text.
-/

namespace LexTree

/-- If `name` is that of a file of `d`, then `read` gives the content of one of `d.files`. -/
theorem Directory.exists_read_of_isFile {d : Directory} {name : String}
    (h : d.isFile name = true) : ∃ file ∈ d.files, d.read name = .ok file.content := by
  rw [isFile] at h
  split at h
  · next place hplace =>
    rw [Bool.and_eq_true, Bool.not_eq_true'] at h
    obtain ⟨hfolder, hregular⟩ := h
    obtain ⟨file, hfile⟩ : ∃ file, d.fileAt? place = some file := by
      cases hat : d.fileAt? place with
      | none =>
        rw [hat] at hregular
        cases hregular
      | some file => exact ⟨file, rfl⟩
    refine ⟨file, List.mem_of_find?_eq_some hfile, ?_⟩
    rw [read, hplace]
    show (if d.isFolder place then _ else _) = _
    rw [hfolder, hfile]
    rfl
  · cases h

/-- The bytes of `text` are decoded to `text`. -/
theorem fromUTF8?_toUTF8 (text : String) : String.fromUTF8? text.toUTF8 = some text :=
  dif_pos text.isValidUTF8

/-- A file with the bytes of `text` has this text. -/
theorem textOfFile_toUTF8 (text : String) : textOfFile (.ok text.toUTF8) = .ok text := by
  rw [textOfFile, fromUTF8?_toUTF8]

end LexTree
