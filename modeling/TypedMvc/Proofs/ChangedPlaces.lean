import TypedMvc.Proofs.SameTree

/-!
# What writing a file changes

Two trees are compared place by place: a place holds the same in both (`SameAt`), or it is told what
is different there. Setting one entry changes its own place only (`sameAt_put`). Making directories
along a path sets one after another, and it changes only places that the path passes, where
directories are that were missing (`makeAlong_changes`), whether it comes to the end of the path or
stops on the way. Together with the file this gives all that may be different after a text was
written (`write_ok_changes`) or could not be written (`write_error_changes`).
-/

namespace TypedMvc.Files

namespace Entry

variable {tree target : Entry} {place other : List String}

/-! ## Setting an entry -/

/-- A directory is where nothing was. -/
structure IsNewDirectory (before after : Entry) (place : List String) : Prop where
  /-- Nothing was there. -/
  free : before.at? place = none
  /-- A directory is there. -/
  there : after.HasDirectory place

/-- A directory that is set where nothing was is all that is new. -/
theorem sameAt_or_isNewDirectory_put (free : tree.at? place = none) (other : List String) :
    SameAt tree (put (.directory []) place tree) other ∨
      other = place ∧ IsNewDirectory tree (put (.directory []) place tree) other := by
  by_cases isPlace : other = place
  · subst isPlace
    rcases at?_put_place (.directory []) tree other with set | kept
    · exact Or.inr ⟨rfl, free, [], set⟩
    · left
      unfold SameAt
      rw [kept]
  · left
    have noDirectory : ¬ tree.HasDirectory place := by
      rintro ⟨entries, found⟩
      cases free.symm.trans found
    refine sameAt_put ?_ noDirectory isPlace
    intro rest further
    obtain ⟨name, rest, rfl⟩ := List.exists_cons_of_ne_nil further
    rfl

end Entry

open Entry

/-! ## Making directories -/

/-- The place that a path leads to, or one that it passes on the way there. -/
def Passes (here parts place : List String) : Prop :=
  ∃ front, front <+: parts ∧ place = front.foldl stepFrom here

/-- What a path passes behind its first piece, it passes. -/
theorem Passes.cons {here parts place : List String} {piece : String}
    (passes : Passes (stepFrom here piece) parts place) : Passes here (piece :: parts) place := by
  obtain ⟨front, onTheWay, rfl⟩ := passes
  exact ⟨piece :: front, (List.prefix_cons_inj piece).mpr onTheWay, rfl⟩

/-- Making directories along a path leaves every place the same but for new directories on the way,
whether it comes to its end or not. -/
theorem makeAlong_changes (system : System) (root : Entry) (here : List String) (made : Bool)
    (parts place : List String) :
    SameAt root (makeAlong system root here made parts).1 place ∨
      IsNewDirectory root (makeAlong system root here made parts).1 place ∧
        Passes here parts place := by
  -- The induction is on the pieces left, over every tree that the steps before may have come to.
  induction parts generalizing root here made with
  | nil => exact Or.inl rfl
  | cons piece rest ih =>
    obtain ⟨goesOn, -⟩ | ⟨_, stopped⟩ | ⟨down, free, goesOn⟩ :=
      makeAlong_cons_cases system root here made piece rest
    · rw [goesOn]
      exact (ih root (stepFrom here piece) made).imp_right fun ⟨isNew, passes⟩ =>
        ⟨isNew, passes.cons⟩
    · rw [stopped]
      exact Or.inl rfl
    · rw [goesOn]
      have first := sameAt_or_isNewDirectory_put free place
      have later := ih (put (.directory []) (here ++ [piece]) root) (here ++ [piece]) true
      generalize put (.directory []) (here ++ [piece]) root = middle at first later ⊢
      generalize (makeAlong system middle (here ++ [piece]) true rest).1 = after at later ⊢
      have isPassed : Passes here (piece :: rest) (here ++ [piece]) :=
        ⟨[piece], (List.prefix_cons_inj piece).mpr List.nil_prefix, down.symm⟩
      -- A place may be new by this step, by a later one, or by none.
      obtain same | ⟨rfl, isNew⟩ := first
      · obtain same' | ⟨isNew, passes⟩ := later
        · exact Or.inl (same.trans same')
        · have passes' : Passes (stepFrom here piece) rest place := down ▸ passes
          exact Or.inr ⟨⟨same.symm.at?_eq_none isNew.free, isNew.there⟩, passes'.cons⟩
      · obtain same' | ⟨isNew', -⟩ := later
        · exact Or.inr ⟨⟨free, same'.hasDirectory isNew.there⟩, isPassed⟩
        · exact Or.inr ⟨⟨free, isNew'.there⟩, isPassed⟩

namespace Disk

variable {disk : Disk} {path : String} {place : List String} {content : ByteArray}

/-- The place of a directory above a path: where the path above it leads, or what that passes. -/
def IsAbove (disk : Disk) (path : String) (place : List String) : Prop :=
  ∃ parent, Path.parent? path = some parent ∧
    Passes (disk.start parent) (Text.pieces '/' parent) place

/-- A place is the same on both disks, or a directory above a path is new there. -/
def IsKeptOrAbove (before after : Disk) (path : String) (place : List String) : Prop :=
  SameAt before.root after.root place ∨
    IsNewDirectory before.root after.root place ∧ before.IsAbove path place

/-- A path by which bytes are read leads to a file with them. -/
theorem exists_locate?_of_read? (holds : disk.read? path = some content) :
    ∃ place, disk.locate? path = some place ∧ disk.root.at? place = some (.file content) := by
  rw [read?] at holds
  split at holds
  · rename_i bytes found
    cases holds
    exact Option.bind_eq_some_iff.mp found
  · cases holds

/-- Making directories changes the tree only. -/
theorem workingDirectory_makeDirectories (system : System) (disk : Disk) (path : String) :
    (disk.makeDirectories path system).1.workingDirectory = disk.workingDirectory := by
  unfold makeDirectories
  generalize makeAlong system disk.root (disk.start path) false (Text.pieces '/' path) = made
  rfl

/-- Making the directories above a path leaves every place the same but for new directories above
it. -/
theorem makeDirectories_changes (system : System) (disk : Disk) (path : String)
    (place : List String) :
    let made := disk.makeDirectories ((Path.parent? path).getD "") system
    disk.IsKeptOrAbove made.1 path place := by
  cases isParent : Path.parent? path with
  | none =>
    rw [Option.getD_none, makeDirectories_empty]
    exact Or.inl rfl
  | some parent =>
    have made : (disk.makeDirectories parent system).1.root =
        (makeAlong system disk.root (disk.start parent) false (Text.pieces '/' parent)).1 := rfl
    rw [Option.getD_some, IsKeptOrAbove, made]
    obtain same | ⟨isNew, passes⟩ :=
      makeAlong_changes system disk.root (disk.start parent) false (Text.pieces '/' parent) place
    · exact Or.inl same
    · exact Or.inr ⟨isNew, parent, isParent, passes⟩

/-- A file that is set at the place for it leaves every other place the same. -/
theorem sameAt_setFile (content : ByteArray) (found : disk.filePlace path = .ok place)
    {other : List String} (differ : other ≠ place) :
    SameAt disk.root (disk.setFile place content).root other := by
  obtain ⟨_, _, _, -, -, -, -, free, rfl⟩ := exists_of_filePlace found
  refine sameAt_put ?_ free differ
  intro rest further
  obtain ⟨next, rest, rfl⟩ := List.exists_cons_of_ne_nil further
  rfl

/-- What is kept or above the path stays so when a file is set elsewhere at the place for it. -/
theorem IsKeptOrAbove.setFile {middle : Disk} {other : List String}
    (kept : disk.IsKeptOrAbove middle path other) (content : ByteArray)
    (found : middle.filePlace path = .ok place) (differ : other ≠ place) :
    disk.IsKeptOrAbove (middle.setFile place content) path other := by
  have same := sameAt_setFile content found differ
  obtain same' | ⟨isNew, isAbove⟩ := kept
  · exact Or.inl (same'.trans same)
  · exact Or.inr ⟨⟨isNew.free, same.hasDirectory isNew.there⟩, isAbove⟩

end Disk

end TypedMvc.Files

namespace TypedMvc.Project

open Files Entry

variable {system : System} {disk : Disk} {text destination : String}

/-- Writing a text to a file changes the tree only. -/
theorem workingDirectory_write (system : System) (disk : Disk) (text destination : String) :
    (write disk text destination system).1.workingDirectory = disk.workingDirectory := by
  have made := disk.workingDirectory_makeDirectories system ((Path.parent? destination).getD "")
  obtain ⟨-, kept⟩ | ⟨_, -, failed⟩ | ⟨-, ⟨_, later, file, failed⟩ | ⟨after, file, written⟩⟩ :=
    write_stages system disk text destination
  · rw [kept]
  · rw [failed]
    dsimp only
    exact made
  · rw [failed]
    dsimp only
    obtain rfl | ⟨_, _, _, -, -, rfl⟩ := Disk.eq_or_of_writeFile_eq_error file
    · exact made
    · rw [Disk.workingDirectory_setFile, made]
  · obtain ⟨_, -, rfl⟩ := Disk.exists_of_writeFile_eq_ok file
    rw [written, Disk.workingDirectory_setFile, made]

/-- A text that cannot be written leaves every place the same but for new directories above its
file, and for the file itself if the system broke off while it wrote: then the file holds a part of
the text from its beginning. -/
theorem write_error_changes {error : WriteError}
    (failed : (write disk text destination system).2 = .error error) (place : List String) :
    let after := (write disk text destination system).1
    disk.IsKeptOrAbove after destination place ∨
      ∃ count message, system.file place = .breaksOff count message ∧
        after.locate? destination = some place ∧
        after.root.at? place = some (.file (text.toUTF8.extract 0 count)) := by
  intro after
  have made := disk.makeDirectories_changes system destination place
  obtain ⟨-, kept⟩ | ⟨_, -, stopped⟩ | ⟨-, ⟨_, later, file, stopped⟩ | ⟨_, -, written⟩⟩ :=
    write_stages system disk text destination
  · rw [kept] at failed
    cases failed
  · simp only [after, stopped]
    exact Or.inl made
  · simp only [after, stopped]
    obtain rfl | ⟨output, count, message, found, brokenOff, rfl⟩ :=
      Disk.eq_or_of_writeFile_eq_error file
    · exact Or.inl made
    · -- Only the place that was opened differs from what it was when the directories were made.
      by_cases isOutput : place = output
      · subst isOutput
        exact Or.inr ⟨count, message, brokenOff, Disk.locate?_setFile _ found,
          Disk.at?_setFile _ found⟩
      · exact Or.inl (made.setFile _ found isOutput)
  · rw [written] at failed
    cases failed

/-- A disk that is full leaves a new directory behind, and the beginning of the text. -/
example :
    let full : System := ⟨fun _ => none, fun _ => .breaksOff 9 "No space left on device"⟩
    let wrote := write ⟨.directory [], []⟩ "namespace R4Mvc" "/new/Mvc.cs" full
    wrote.2 = .error (.noFile "/new/Mvc.cs" (.system "No space left on device")) ∧
      (wrote.1.read? "/new/Mvc.cs").map (·.data) = some "namespace".toUTF8.data := by
  decide +kernel

/-- A text that is written, or was in its file already, is where the path of the file leads. Every
other place is the same but for new directories above the file. -/
theorem write_ok_changes {wrote : Bool}
    (done : (write disk text destination system).2 = .ok wrote) :
    ∃ output, (write disk text destination system).1.locate? destination = some output ∧
      (write disk text destination system).1.root.at? output = some (.file text.toUTF8) ∧
      ∀ place, place ≠ output →
        disk.IsKeptOrAbove (write disk text destination system).1 destination place := by
  obtain ⟨holds, kept⟩ | ⟨_, -, stopped⟩ | ⟨-, ⟨_, _, -, stopped⟩ | ⟨after, file, written⟩⟩ :=
    write_stages system disk text destination
  · rw [kept]
    obtain ⟨output, located, there⟩ := Disk.exists_locate?_of_read? holds
    exact ⟨output, located, there, fun place _ => Or.inl rfl⟩
  · rw [stopped] at done
    cases done
  · rw [stopped] at done
    cases done
  · obtain ⟨output, found, rfl⟩ := Disk.exists_of_writeFile_eq_ok file
    rw [written]
    exact ⟨output, Disk.locate?_setFile _ found, Disk.at?_setFile _ found, fun place differ =>
      (disk.makeDirectories_changes system destination place).setFile _ found differ⟩

end TypedMvc.Project
