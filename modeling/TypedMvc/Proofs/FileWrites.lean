import TypedMvc.Project.Output
import TypedMvc.Proofs.Following

/-!
# Writing a file below a directory

The directories that are missing are made one after another (`makeAlong_cons`), and nothing is made
on a way that is there (`makeAlong_of_follow`). With the file itself this grows the tree step by
step. Nothing is set under a name that the path does not contain. `write_grows` is the outcome for
the generated file: a path that leads to it, and a larger tree that holds the text there.
-/

namespace TypedMvc.Files

open Entry

/-! ## Making directories -/

section Making

variable {system : System} {root after : Entry} {here there parts : List String} {piece : String}
  {made : Bool}

/-- One piece of a path along which directories are made: it leads on to a directory that is there,
something stands in the way, or a directory is made where nothing was. -/
theorem makeAlong_cons_cases (system : System) (root : Entry) (here : List String) (made : Bool)
    (piece : String) (parts : List String) :
    makeAlong system root here made (piece :: parts) =
          makeAlong system root (stepFrom here piece) made parts ∧
        (root.HasDirectory here → root.HasDirectory (stepFrom here piece)) ∨
      (∃ obstacle, makeAlong system root here made (piece :: parts) = (root, some obstacle)) ∨
      stepFrom here piece = here ++ [piece] ∧ root.at? (here ++ [piece]) = none ∧
        makeAlong system root here made (piece :: parts) =
          makeAlong system (put (.directory []) (here ++ [piece]) root) (here ++ [piece]) true
            parts := by
  rw [makeAlong, stepFrom]
  split
  · exact Or.inl ⟨rfl, id⟩
  · split
    · exact Or.inl ⟨rfl, HasDirectory.dropLast⟩
    · cases child : root.at? (here ++ [piece]) with
      | none => cases refused : system.directory (here ++ [piece]) <;> simp [child, refused]
      | some entry =>
        cases entry with
        | file content => simp [child]
        | directory entries =>
          have isDirectory : root.HasDirectory (here ++ [piece]) := ⟨entries, child⟩
          simp [child, isDirectory]

/-- Making directories along a path goes on from a directory that is there, or from one that is made
where nothing was. -/
theorem makeAlong_cons (done : makeAlong system root here made (piece :: parts) = (after, none)) :
    makeAlong system root (stepFrom here piece) made parts = (after, none) ∧
        (root.HasDirectory here → root.HasDirectory (stepFrom here piece)) ∨
      stepFrom here piece = here ++ [piece] ∧ root.at? (here ++ [piece]) = none ∧
        makeAlong system (put (.directory []) (here ++ [piece]) root) (here ++ [piece]) true parts =
          (after, none) := by
  obtain ⟨goesOn, keepsRoom⟩ | ⟨_, stopped⟩ | ⟨down, free, goesOn⟩ :=
    makeAlong_cons_cases system root here made piece parts
  · exact Or.inl ⟨goesOn ▸ done, keepsRoom⟩
  · cases stopped.symm.trans done
  · exact Or.inr ⟨down, free, goesOn ▸ done⟩

/-- Where there are no names, nothing is made. -/
theorem makeAlong_slashes (slashes : ∀ piece ∈ parts, piece = "") :
    makeAlong system root here made parts = (root, none) := by
  induction parts with
  | nil => rfl
  | cons piece rest ih =>
    rw [makeAlong, if_pos (Or.inl (slashes piece List.mem_cons_self))]
    exact ih fun other later => slashes other (List.mem_cons_of_mem piece later)

/-- Along a way that is there directories are made from where it leads. -/
theorem makeAlong_append_of_follow {front : List String}
    (followed : front.foldlM (Disk.follow? root) here = some there)
    (done : makeAlong system root here made (front ++ parts) = (after, none)) :
    makeAlong system root there made parts = (after, none) := by
  induction front generalizing here with
  | nil =>
    cases followed
    exact done
  | cons piece rest ih =>
    obtain ⟨-, ⟨entry, found⟩, further⟩ := Disk.follow_cons_eq_some_iff.mp followed
    obtain ⟨done, -⟩ | ⟨same, free, -⟩ := makeAlong_cons done
    · exact ih further done
    · rw [same, free] at found
      cases found

/-- Nothing is made on a way that is there. -/
theorem makeAlong_of_follow {front : List String} (onTheWay : parts <+: front)
    (followed : front.foldlM (Disk.follow? root) here = some there)
    (done : makeAlong system root here made parts = (after, none)) : after = root := by
  obtain ⟨rest, rfl⟩ := onTheWay
  rw [List.foldlM_append] at followed
  obtain ⟨next, leads, -⟩ := Option.bind_eq_some_iff.mp followed
  rw [← List.append_nil parts] at done
  have ended := makeAlong_append_of_follow leads done
  rw [makeAlong] at ended
  exact (congrArg Prod.fst ended).symm

/-- Making directories along a path without certain names grows the tree without them. -/
theorem grows_makeAlong {names output : List String} (room : root.HasDirectory here)
    (others : ∀ piece ∈ parts, piece ∉ names)
    (done : makeAlong system root here made parts = (after, none)) :
    Grows names output root after := by
  induction parts generalizing root here made with
  | nil =>
    rw [makeAlong] at done
    cases done
    exact .refl
  | cons piece rest ih =>
    obtain ⟨other, later⟩ := List.forall_mem_cons.mp others
    obtain ⟨done, keepsRoom⟩ | ⟨-, free, done⟩ := makeAlong_cons done
    · exact ih (keepsRoom room) later done
    · exact .head (.set room other (.directory free)) (ih ⟨[], at?_put_self room⟩ later done)

end Making

/-! ## Writing the file -/

namespace Disk

variable {system : System} {disk after : Disk} {path : String} {place : List String}
  {content : ByteArray}

/-- Following a path with a reason for each failure is following it. -/
theorem foldlM_follow_eq_ok_iff {root : Entry} {here there parts : List String} :
    parts.foldlM (follow root) here = .ok there ↔
      parts.foldlM (follow? root) here = some there := by
  induction parts generalizing here with
  | nil =>
    show Except.ok here = Except.ok there ↔ some here = some there
    rw [Except.ok.injEq, Option.some.injEq]
  | cons piece rest ih =>
    rw [List.foldlM_cons, List.foldlM_cons, follow]
    cases follow? root here piece with
    | none =>
      constructor
      · intro failed
        cases failed
      · intro failed
        cases failed
    | some next => exact ih

/-- A path with no empty piece at its end ends with a piece that is not empty. -/
theorem ne_empty_of_dropWhile_eq {pieces : List String} {last : String}
    (trimmed : (pieces.reverse.dropWhile (· = "")).reverse = pieces)
    (ends : pieces.getLast? = some last) : last ≠ "" := by
  have begins : pieces.reverse.dropWhile (· = "") = pieces.reverse := by
    have turned := congrArg List.reverse trimmed
    rwa [List.reverse_reverse] at turned
  have first : (pieces.reverse.dropWhile (· = "")).head? = some last := by
    rw [begins, List.head?_reverse, ends]
  have fails := List.head?_dropWhile_not (fun piece : String => decide (piece = "")) pieces.reverse
  rw [first] at fails
  simpa using fails

/-- The place of a file is in the directory that its path leads to without the name at its end, and
no directory has the name. -/
theorem exists_of_filePlace (found : disk.filePlace path = .ok place) :
    ∃ above here name, Text.pieces '/' path = above ++ [name] ∧
      above.foldlM (follow? disk.root) (disk.start path) = some here ∧
      (name ≠ "" ∧ name ≠ "." ∧ name ≠ "..") ∧ disk.root.HasDirectory here ∧
      ¬ disk.root.HasDirectory (here ++ [name]) ∧ place = here ++ [name] := by
  rw [filePlace] at found
  split at found
  · cases found
  · cases found
  · rename_i here name followed last
    have leads := foldlM_follow_eq_ok_iff.mp followed
    split at found
    · cases found
    · rename_i isName
      rw [not_or, not_or, not_not] at isName
      obtain ⟨whole, isName⟩ := isName
      rw [whole] at leads last
      have nonempty := ne_empty_of_dropWhile_eq whole last
      refine ⟨_, here, name, (List.dropLast_append_getLast? name last).symm, leads,
        ⟨nonempty, isName⟩, ?_⟩
      split at found
      · cases found
      · rename_i entries there free
        cases found
        refine ⟨⟨entries, there⟩, ?_, rfl⟩
        rintro ⟨others, taken⟩
        exact free _ taken
      · cases found

/-- Setting a file leaves the program where it is. -/
theorem workingDirectory_setFile (disk : Disk) (place : List String) (content : ByteArray) :
    (disk.setFile place content).workingDirectory = disk.workingDirectory := rfl

/-- The path of a file leads to it once it is set at its place. -/
theorem locate?_setFile (content : ByteArray) (found : disk.filePlace path = .ok place) :
    (disk.setFile place content).locate? path = some place := by
  obtain ⟨above, here, name, split, leads, isName, room, free, rfl⟩ := exists_of_filePlace found
  have step : Step [] (here ++ [name]) disk.root
      (put (.file content) (here ++ [name]) disk.root) :=
    .set room List.not_mem_nil (.file content rfl free)
  have set : (put (.file content) (here ++ [name]) disk.root).at? (here ++ [name]) =
      some (.file content) := at?_put_self room
  have nonempty : path ≠ "" := by
    rintro rfl
    have alone : above ++ [name] = [] ++ [""] := split.symm.trans (by decide)
    have same : [name] = [""] := (List.append_inj' alone rfl).2
    exact isName.1 (List.cons.inj same).1
  have down : stepFrom here name = here ++ [name] := by
    rw [stepFrom, if_neg (not_or.mpr ⟨isName.1, isName.2.1⟩), if_neg isName.2.2]
  rw [locate?_eq_some_iff]
  refine ⟨nonempty, ?_⟩
  rw [split, List.foldlM_append]
  refine Option.bind_eq_some_iff.mpr ⟨here, step.keepsKinds.follow leads, ?_⟩
  rw [follow_cons_eq_some_iff, down]
  exact ⟨step.keepsKinds.hasDirectory room, ⟨_, set⟩, rfl⟩

/-- At its place lies the file that was set. -/
theorem at?_setFile (content : ByteArray) (found : disk.filePlace path = .ok place) :
    (disk.setFile place content).root.at? place = some (.file content) := by
  obtain ⟨_, _, _, -, -, -, room, -, rfl⟩ := exists_of_filePlace found
  exact at?_put_self room

/-- What comes of writing a file: something stands in the way and nothing is changed, or there is a
place for the file. There it is set with all its bytes, or with those in front where the system
breaks off. -/
theorem writeFile_cases (system : System) (disk : Disk) (path : String) (content : ByteArray) :
    (∃ obstacle, disk.writeFile path content system = .error (obstacle, disk)) ∨
      ∃ place, disk.filePlace path = .ok place ∧
        (disk.writeFile path content system = .ok (disk.setFile place content) ∨
          ∃ count message, system.file place = .breaksOff count message ∧
            disk.writeFile path content system =
              .error (.system message, disk.setFile place (content.extract 0 count))) := by
  rw [writeFile]
  cases disk.filePlace path with
  | error obstacle => exact Or.inl ⟨obstacle, rfl⟩
  | ok place =>
    dsimp only
    cases writing : system.file place with
    | completes => exact Or.inr ⟨place, rfl, Or.inl rfl⟩
    | refuses message => exact Or.inl ⟨.system message, rfl⟩
    | breaksOff count message => exact Or.inr ⟨place, rfl, Or.inr ⟨count, message, writing, rfl⟩⟩

/-- A file that is written without an error is set at its place. -/
theorem exists_of_writeFile_eq_ok (written : disk.writeFile path content system = .ok after) :
    ∃ place, disk.filePlace path = .ok place ∧ after = disk.setFile place content := by
  obtain ⟨_, failed⟩ | ⟨place, found, set | ⟨_, _, -, failed⟩⟩ :=
    writeFile_cases system disk path content
  · cases failed.symm.trans written
  · exact ⟨place, found, Except.ok.inj (written.symm.trans set)⟩
  · cases failed.symm.trans written

/-- A file that cannot be written is not set, or the bytes in front are where the system breaks
off. -/
theorem eq_or_of_writeFile_eq_error {obstacle : Obstacle}
    (failed : disk.writeFile path content system = .error (obstacle, after)) :
    after = disk ∨ ∃ place count message, disk.filePlace path = .ok place ∧
      system.file place = .breaksOff count message ∧
        after = disk.setFile place (content.extract 0 count) := by
  obtain ⟨_, unset⟩ | ⟨place, found, written | ⟨count, message, brokenOff, set⟩⟩ :=
    writeFile_cases system disk path content
  · exact Or.inl (Prod.mk.inj (Except.error.inj (failed.symm.trans unset))).2
  · cases failed.symm.trans written
  · exact Or.inr ⟨place, count, message, found, brokenOff,
      (Prod.mk.inj (Except.error.inj (failed.symm.trans set))).2⟩

/-- Without a path there is nothing to be made. -/
theorem makeDirectories_empty (system : System) (disk : Disk) :
    disk.makeDirectories "" system = (disk, none) := by
  rw [makeDirectories, makeAlong_slashes (by decide)]

/-- The empty path is no case of its own where directories are made. -/
theorem ite_makeDirectories (system : System) (disk : Disk) (path : String) :
    (if path = "" then (disk, none) else disk.makeDirectories path system) =
      disk.makeDirectories path system := by
  split
  · next empty => rw [empty, makeDirectories_empty]
  · rfl

/-- The directories above a path that ends with a name are made along the pieces in front of the
name, but for those at the end that stay where they are. -/
theorem makeDirectories_parent (system : System) (disk : Disk) {above : List String} {name : String}
    (split : Text.pieces '/' path = above ++ [name]) (isName : name ≠ "" ∧ name ≠ ".") :
    ∃ kept skipped, above = kept ++ skipped ∧ (∀ piece ∈ skipped, piece = "" ∨ piece = ".") ∧
      disk.makeDirectories ((Path.parent? path).getD "") system =
        ({ disk with root := (makeAlong system disk.root (disk.start path) false kept).1 },
          (makeAlong system disk.root (disk.start path) false kept).2) := by
  obtain ⟨kept, skipped, parts, stay, parent⟩ := Path.pieces_parent split isName
  refine ⟨kept, skipped, parts, stay, ?_⟩
  obtain ⟨rfl, ⟨-, empty⟩ | ⟨-, root⟩⟩ | ⟨parent, found, rfl, begins⟩ := parent
  -- The empty path and the root name directories that are there.
  · rw [empty, Option.getD_some, makeDirectories, makeAlong_slashes (by decide)]
    rfl
  · rw [root, Option.getD_some, makeDirectories, makeAlong_slashes (by decide)]
    rfl
  · rw [found, Option.getD_some, makeDirectories, start, start, begins]

end Disk

end TypedMvc.Files

namespace TypedMvc.Project

open Files

variable {system : System} {disk middle after : Disk}
  {text directory outputFile destination : String} {names here : List String}

/-- A text that a file holds already is not written. -/
theorem write_of_read? (system : System) (holds : disk.read? destination = some text.toUTF8) :
    write disk text destination system = (disk, .ok false) := by
  have same : (disk.read? destination).any (fun content => content.data = text.toUTF8.data) =
      true := by
    rw [holds, Option.any_some]
    exact decide_eq_true rfl
  rw [write]
  exact if_pos same

/-- What comes of writing a text: the file held it already and nothing is changed, the directories
above the file could not be made, the file could not be written after that, or it was written. -/
theorem write_stages (system : System) (disk : Disk) (text destination : String) :
    let parent := (Path.parent? destination).getD ""
    let middle := (disk.makeDirectories parent system).1
    (disk.read? destination = some text.toUTF8 ∧
        write disk text destination system = (disk, .ok false)) ∨
      (∃ obstacle, (disk.makeDirectories parent system).2 = some obstacle ∧
        write disk text destination system = (middle, .error (.noDirectory parent obstacle))) ∨
      (disk.makeDirectories parent system).2 = none ∧
        ((∃ obstacle after,
            middle.writeFile destination text.toUTF8 system = .error (obstacle, after) ∧
            write disk text destination system = (after, .error (.noFile destination obstacle))) ∨
          ∃ after, middle.writeFile destination text.toUTF8 system = .ok after ∧
            write disk text destination system = (after, .ok true)) := by
  intro parent middle
  rw [write]
  split
  · rename_i same
    cases found : disk.read? destination with
    | none => simp [found] at same
    | some content =>
      rw [found, Option.any_some] at same
      have equal : content = text.toUTF8 := ByteArray.ext (of_decide_eq_true same)
      exact Or.inl ⟨congrArg some equal, rfl⟩
  · right
    dsimp only
    rw [Disk.ite_makeDirectories]
    cases made : (disk.makeDirectories parent system).2 with
    | some obstacle => exact Or.inl ⟨obstacle, rfl, rfl⟩
    | none =>
      refine Or.inr ⟨rfl, ?_⟩
      dsimp only
      cases file : middle.writeFile destination text.toUTF8 system with
      | error failed => exact Or.inl ⟨failed.1, failed.2, rfl, rfl⟩
      | ok after => exact Or.inr ⟨after, rfl, rfl⟩

/-- Without an error the file held the text already and nothing is changed, or the text was written
after the directories above it were made. -/
theorem write_cases {wrote : Bool}
    (done : write disk text destination system = (after, .ok wrote)) :
    wrote = false ∧ after = disk ∧ disk.read? destination = some text.toUTF8 ∨
      wrote = true ∧ ∃ middle,
        disk.makeDirectories ((Path.parent? destination).getD "") system = (middle, none) ∧
          middle.writeFile destination text.toUTF8 system = .ok after := by
  obtain ⟨holds, kept⟩ | ⟨_, -, failed⟩ | ⟨made, ⟨_, _, -, failed⟩ | ⟨later, file, wrote'⟩⟩ :=
    write_stages system disk text destination
  · cases kept.symm.trans done
    exact Or.inl ⟨rfl, rfl, holds⟩
  · have ends := congrArg Prod.snd (failed.symm.trans done)
    cases ends
  · have ends := congrArg Prod.snd (failed.symm.trans done)
    cases ends
  · cases wrote'.symm.trans done
    have directories : disk.makeDirectories ((Path.parent? destination).getD "") system =
        ((disk.makeDirectories ((Path.parent? destination).getD "") system).1, none) := by
      rw [← made]
    exact Or.inr ⟨rfl, _, directories, file⟩

/-- Making the directories above a file below a directory grows the tree without names that are not
in the file's path. -/
theorem grows_makeDirectories {output : List String} (located : disk.locate? directory = some here)
    (room : disk.root.HasDirectory here)
    (others : ∀ piece ∈ Text.pieces '/' outputFile, piece ∉ names)
    {above : List String} {name : String}
    (split : Text.pieces '/' (Path.join directory outputFile) = above ++ [name])
    (isName : name ≠ "" ∧ name ≠ ".")
    (made : disk.makeDirectories ((Path.parent? (Path.join directory outputFile)).getD "") system =
      (middle, none)) :
    middle.workingDirectory = disk.workingDirectory ∧
      Grows names output disk.root middle.root := by
  obtain ⟨kept, skipped, parts, -, along⟩ := disk.makeDirectories_parent system split isName
  rw [made] at along
  have same : middle.workingDirectory = disk.workingDirectory := by rw [(Prod.mk.inj along).1]
  have after : makeAlong system disk.root (disk.start (Path.join directory outputFile)) false kept =
      (middle.root, none) :=
    Prod.ext (by rw [(Prod.mk.inj along).1]) (Prod.mk.inj along).2.symm
  refine ⟨same, ?_⟩
  obtain ⟨front, pieces, followed⟩ := Disk.exists_front located outputFile
  have whole : kept <+: front ++ Text.pieces '/' outputFile := by
    rw [← pieces, split, parts, List.append_assoc]
    exact List.prefix_append kept _
  rcases List.prefix_or_prefix_of_prefix whole (List.prefix_append front _) with inside | beyond
  · -- The directory above the file is one on the way to the directory that is there.
    rw [makeAlong_of_follow inside followed after]
  · -- Beyond that directory only pieces of the file's own path are left.
    obtain ⟨own, split'⟩ := beyond
    rw [← split'] at after whole
    have isOwn : own <+: Text.pieces '/' outputFile := (List.prefix_append_right_inj front).mp whole
    exact grows_makeAlong (Disk.hasDirectory_startBelow room outputFile)
      (fun piece mem => others piece (isOwn.subset mem))
      (makeAlong_append_of_follow followed after)

/-- Writing a text to a file below a directory grows the tree without names that are not in the
file's path. The path leads to the text then. -/
theorem write_grows (located : disk.locate? directory = some here)
    (room : disk.root.HasDirectory here)
    (others : ∀ piece ∈ Text.pieces '/' outputFile, piece ∉ names)
    (written : write disk text (Path.join directory outputFile) system = (after, .ok true)) :
    ∃ place, Grows names place disk.root after.root ∧
      after.workingDirectory = disk.workingDirectory ∧
      after.locate? (Path.join directory outputFile) = some place ∧
      after.root.at? place = some (.file text.toUTF8) := by
  obtain ⟨isTrue, -⟩ | ⟨-, middle, made, file⟩ := write_cases written
  · cases isTrue
  -- The directories are made first, and the file is the last step.
  obtain ⟨place, found, rfl⟩ := Disk.exists_of_writeFile_eq_ok file
  have leadsTo := Disk.locate?_setFile text.toUTF8 found
  have holds := Disk.at?_setFile text.toUTF8 found
  obtain ⟨above, there, name, split, leads, isName, inside, free, rfl⟩ :=
    Disk.exists_of_filePlace found
  have growing : middle.workingDirectory = disk.workingDirectory ∧
      Grows names (there ++ [name]) disk.root middle.root :=
    grows_makeDirectories located room others split ⟨isName.1, isName.2.1⟩ made
  obtain ⟨same, grows⟩ := growing
  have keeps : disk.Keeps middle := ⟨same, grows.keepsKinds⟩
  -- The name at the end is one of the file's own path.
  obtain ⟨front, pieces, -⟩ := Disk.exists_front (keeps.locate?_eq located) outputFile
  obtain ⟨own, last, isOwn⟩ : ∃ own last, Text.pieces '/' outputFile = own ++ [last] :=
    ⟨_, _, (List.dropLast_append_getLast (Text.pieces_ne_nil outputFile)).symm⟩
  rw [pieces, isOwn, ← List.append_assoc] at split
  obtain ⟨-, lasts⟩ := List.append_inj' split rfl
  cases lasts
  have other : name ∉ names :=
    others name (isOwn ▸ List.mem_append_right own (List.mem_singleton_self name))
  have step : Step names (there ++ [name]) middle.root _ :=
    .set inside other (.file text.toUTF8 rfl free)
  exact ⟨there ++ [name], grows.tail step, same, leadsTo, holds⟩

end TypedMvc.Project
