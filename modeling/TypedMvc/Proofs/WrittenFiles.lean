import TypedMvc.Proofs.ChangedPlaces

/-!
# The disk after a text was written

Where a text could be written, or was in its file already, the disk is the one from before with one
file set (`Disk.IsWritten`): the path of the file leads to it and it holds the text, every other
file is there with the bytes it had, and the only directories that are new were missing above the
path. What holds of each other place is known (`write_ok_changes`). It remains that the place of the
file was no directory (`not_hasDirectory_of_write`), so that no directory is lost and every path
leads where it led (`Disk.IsWritten.keeps`). `write_settles` is the outcome: the text is read back,
and it is not written twice.
-/

namespace TypedMvc.Files

variable {before after tree : Entry} {place output : List String} {bytes : ByteArray}

namespace Entry

/-- Neither before nor after is there a file where a directory is new. -/
theorem IsNewDirectory.at?_eq_file_iff (isNew : IsNewDirectory before after place) :
    after.at? place = some (.file bytes) ↔ before.at? place = some (.file bytes) := by
  obtain ⟨free, entries, there⟩ := isNew
  rw [free, there]
  constructor <;> intro found <;> cases found

end Entry

open Entry

namespace Disk

variable {before after : Disk} {path : String} {content : ByteArray}

/-- What is kept, or a directory above the path, has the file that was there. -/
theorem IsKeptOrAbove.at?_eq_file_iff (kept : before.IsKeptOrAbove after path place) :
    after.root.at? place = some (.file bytes) ↔ before.root.at? place = some (.file bytes) := by
  obtain same | ⟨isNew, -⟩ := kept
  · exact same.at?_eq_file_iff
  · exact isNew.at?_eq_file_iff

/-- What is kept, or a directory above the path, has the directory that was there. -/
theorem IsKeptOrAbove.hasDirectory (kept : before.IsKeptOrAbove after path place)
    (there : before.root.HasDirectory place) : after.root.HasDirectory place := by
  obtain same | ⟨isNew, -⟩ := kept
  · exact same.hasDirectory there
  · exact isNew.there

/-- A directory was there, or it is a new one above the path. -/
theorem IsKeptOrAbove.hasDirectory_or (kept : before.IsKeptOrAbove after path place)
    (there : after.root.HasDirectory place) :
    before.root.HasDirectory place ∨
      before.root.at? place = none ∧ before.IsAbove path place := by
  obtain same | ⟨isNew, isAbove⟩ := kept
  · exact Or.inl (same.symm.hasDirectory there)
  · exact Or.inr ⟨isNew.free, isAbove⟩

/-- A disk is another one with a file written to it, at a place that was no directory, and with the
directories above the path of the file that were missing. -/
structure IsWritten (before after : Disk) (path : String) (content : ByteArray)
    (output : List String) : Prop where
  /-- The path leads to the file. -/
  located : after.locate? path = some output
  /-- The file has the bytes. -/
  holds : after.root.at? output = some (.file content)
  /-- There are the same other files as before, with the same bytes. -/
  files : ∀ place, place ≠ output → ∀ bytes,
    after.root.at? place = some (.file bytes) ↔ before.root.at? place = some (.file bytes)
  /-- No directory is taken away. -/
  directories : ∀ place, before.root.HasDirectory place → after.root.HasDirectory place
  /-- A directory that is new was missing above the path. -/
  added : ∀ place, after.root.HasDirectory place →
    before.root.HasDirectory place ∨ before.root.at? place = none ∧ before.IsAbove path place
  /-- The program is at the same place. -/
  workingDirectory : after.workingDirectory = before.workingDirectory

/-- The bytes that were written are read back. -/
theorem IsWritten.read?_eq (written : before.IsWritten after path content output) :
    after.read? path = some content :=
  read?_of_locate? written.located written.holds

/-- Everything stays a file or a directory, as it was. -/
theorem IsWritten.keeps (written : before.IsWritten after path content output) :
    before.Keeps after := by
  refine ⟨written.workingDirectory, ?_⟩
  rintro place (bytes | entries) there
  · -- The file itself may have other bytes now.
    by_cases isOutput : place = output
    · exact ⟨.file content, isOutput ▸ written.holds, rfl⟩
    · exact ⟨_, (written.files place isOutput bytes).mpr there, rfl⟩
  · obtain ⟨entries', there'⟩ := written.directories place ⟨entries, there⟩
    exact ⟨_, there', rfl⟩

/-- By a path that does not lead to the file the same bytes are read as before. -/
theorem IsWritten.read?_of_ne (written : before.IsWritten after path content output)
    {other : String} (holds : before.read? other = some bytes)
    (differ : before.locate? other ≠ some output) : after.read? other = some bytes := by
  obtain ⟨place, located, there⟩ := exists_locate?_of_read? holds
  have apart : place ≠ output := fun same => differ (same ▸ located)
  exact read?_of_locate? (written.keeps.locate?_eq located)
    ((written.files place apart bytes).mpr there)

end Disk

end TypedMvc.Files

namespace TypedMvc.Project

open Files Entry

variable {system : System} {disk : Disk} {text destination : String}

/-- A text was written to a place that was no directory before. -/
theorem not_hasDirectory_of_write {output : List String} {wrote : Bool}
    (done : (write disk text destination system).2 = .ok wrote)
    (located : (write disk text destination system).1.locate? destination = some output) :
    ¬ disk.root.HasDirectory output := by
  rintro ⟨entries, directory⟩
  obtain ⟨holds, kept⟩ | ⟨_, -, stopped⟩ | ⟨-, ⟨_, _, -, stopped⟩ | ⟨after, file, written⟩⟩ :=
    write_stages system disk text destination
  · rw [kept] at located
    obtain ⟨place, located', there⟩ := Disk.exists_locate?_of_read? holds
    cases located.symm.trans located'
    cases directory.symm.trans there
  · rw [stopped] at done
    cases done
  · rw [stopped] at done
    cases done
  · -- A directory that was there is there when the file is to be set, which then fails.
    obtain ⟨place, found, rfl⟩ := Disk.exists_of_writeFile_eq_ok file
    rw [written] at located
    cases located.symm.trans (Disk.locate?_setFile _ found)
    obtain ⟨_, _, _, -, -, -, -, free, rfl⟩ := Disk.exists_of_filePlace found
    have made := disk.makeDirectories_changes system destination
    exact free ((made _).hasDirectory ⟨entries, directory⟩)

/-- A text that is written, or was in its file already, is on a disk that differs from the one
before by its file and the directories above it. -/
theorem exists_isWritten {wrote : Bool}
    (done : (write disk text destination system).2 = .ok wrote) :
    ∃ output, disk.IsWritten (write disk text destination system).1 destination text.toUTF8
      output := by
  obtain ⟨output, located, holds, others⟩ := write_ok_changes done
  have noDirectory : ¬ disk.root.HasDirectory output := not_hasDirectory_of_write done located
  refine ⟨output, located, holds, ?_, ?_, ?_, workingDirectory_write system disk text destination⟩
  · intro place differ bytes
    exact (others place differ).at?_eq_file_iff
  · intro place there
    have differ : place ≠ output := fun same => noDirectory (same ▸ there)
    exact (others place differ).hasDirectory there
  · intro place there
    have differ : place ≠ output := by
      rintro rfl
      obtain ⟨entries, directory⟩ := there
      cases directory.symm.trans holds
    exact (others place differ).hasDirectory_or there

/-- A text is not written if and only if the file holds it already. -/
theorem write_eq_false_iff :
    (write disk text destination system).2 = .ok false ↔
      disk.read? destination = some text.toUTF8 := by
  constructor
  · intro same
    obtain ⟨holds, -⟩ | ⟨_, -, stopped⟩ | ⟨-, ⟨_, _, -, stopped⟩ | ⟨after, -, written⟩⟩ :=
      write_stages system disk text destination
    · exact holds
    · rw [stopped] at same
      cases same
    · rw [stopped] at same
      cases same
    · rw [written] at same
      cases same
  · intro holds
    rw [write_of_read? system holds]

/-- Where a text can be written, it is read back, and everything else is as it was but for
directories above the file that were missing. It is not written if and only if the file holds it
already, and then nothing is changed. So it is not written twice, whatever the system does the
second time. -/
theorem write_settles (system : System) (disk : Disk) (text destination : String) :
    let outcome := write disk text destination system
    (∀ wrote, outcome.2 = .ok wrote →
      outcome.1.read? destination = some text.toUTF8 ∧
      (∃ output, disk.IsWritten outcome.1 destination text.toUTF8 output ∧
        ∀ other bytes, disk.read? other = some bytes → disk.locate? other ≠ some output →
          outcome.1.read? other = some bytes) ∧
      ∀ later : System, write outcome.1 text destination later = (outcome.1, .ok false)) ∧
    (outcome.2 = .ok false ↔ disk.read? destination = some text.toUTF8) ∧
    (outcome.2 = .ok false → outcome.1 = disk) := by
  intro outcome
  refine ⟨fun wrote done => ?_, write_eq_false_iff, fun same => ?_⟩
  · obtain ⟨output, written⟩ := exists_isWritten done
    have holds : outcome.1.read? destination = some text.toUTF8 := written.read?_eq
    exact ⟨holds, ⟨output, written, fun _ _ => written.read?_of_ne⟩,
      fun later => write_of_read? later holds⟩
  · show (write disk text destination system).1 = disk
    rw [write_of_read? system (write_eq_false_iff.mp same)]

/-- Directories are made for a first text, and another text is put in its place. -/
example :
    let first := write ⟨.directory [], []⟩ "class A" "Generated/Mvc.cs"
    let second := write first.1 "class B" "Generated/Mvc.cs"
    first.2.toOption = some true ∧ second.2.toOption = some true ∧
      first.1.isDirectory "Generated" = true := by decide +kernel

end TypedMvc.Project
