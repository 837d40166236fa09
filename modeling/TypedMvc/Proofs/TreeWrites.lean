import Mathlib.Data.List.Nodup
import TypedMvc.Files.Tree

/-!
# Setting one entry of a tree

What a tree holds after an entry was set in it. At and below its place the tree holds the new entry
(`at?_put_self`), on the way there the same directories with the entry set further down
(`at?_put_above`), and everywhere else what it held before (`at?_put_apart`). Place by place, only
its own holds something else where no directory was (`sameAt_put`). A tree whose names are used once
stays one (`IsTree.put`).
-/

namespace TypedMvc.Files.Entry

/-! ## What lies where -/

/-- A directory lies at a place. -/
def HasDirectory (tree : Entry) (place : List String) : Prop :=
  ∃ entries, tree.at? place = some (.directory entries)

/-- Names that follow one another lead on from where the first of them led. -/
theorem at?_append (tree : Entry) (above rest : List String) :
    tree.at? (above ++ rest) = (tree.at? above).bind fun entry => entry.at? rest := by
  induction above generalizing tree with
  | nil => simp [at?]
  | cons name above ih =>
    cases child : tree.child? name with
    | none => simp [at?, child]
    | some below => simp [at?, child, ih]

/-- Below a file there is nothing. -/
theorem at?_file_eq_some {content : ByteArray} {rest : List String} {entry : Entry}
    (found : (Entry.file content).at? rest = some entry) : rest = [] ∧ entry = .file content := by
  cases rest with
  | nil => exact ⟨rfl, (Option.some.inj found).symm⟩
  | cons name rest => simp [at?, child?, entries] at found

/-- Something in an entry makes that a directory. -/
theorem isDirectory_of_at?_cons {tree entry : Entry} {name : String} {rest : List String}
    (found : tree.at? (name :: rest) = some entry) : tree.isDirectory = true := by
  cases tree with
  | file content => cases (at?_file_eq_some found).1
  | directory entries => rfl

/-- Everything on the way to a directory is a directory. -/
theorem HasDirectory.of_append {tree : Entry} {above rest : List String}
    (directory : tree.HasDirectory (above ++ rest)) : tree.HasDirectory above := by
  obtain ⟨entries, found⟩ := directory
  rw [at?_append] at found
  obtain ⟨entry, there, below⟩ := Option.bind_eq_some_iff.mp found
  cases entry with
  | directory entries => exact ⟨entries, there⟩
  | file content => cases (at?_file_eq_some below).2

/-- A place on the way to a directory is a directory. -/
theorem HasDirectory.of_prefix {tree : Entry} {above place : List String}
    (directory : tree.HasDirectory place) (onTheWay : above <+: place) :
    tree.HasDirectory above := by
  obtain ⟨rest, rfl⟩ := onTheWay
  exact directory.of_append

/-- What a directory lies in is a directory. -/
theorem HasDirectory.dropLast {tree : Entry} {place : List String}
    (directory : tree.HasDirectory place) : tree.HasDirectory place.dropLast :=
  directory.of_prefix (List.dropLast_prefix place)

/-- Of a directory, the entry at a name is the one that its name leads to. -/
theorem at?_concat {tree : Entry} {above : List String} {entries : List (String × Entry)}
    (there : tree.at? above = some (.directory entries)) (name : String) :
    tree.at? (above ++ [name]) = entries.lookup name := by
  rw [at?_append, there, Option.bind_some, at?, child?, Entry.entries]
  simp [at?]

/-- The entry of one name is what the name leads to. -/
theorem at?_singleton (tree : Entry) (name : String) : tree.at? [name] = tree.child? name := by
  rw [at?]
  simp [at?]

/-! ## Setting an entry -/

variable {tree target : Entry} {above place : List String} {name : String}

/-- A name leads past the entries with other names. -/
theorem lookup_cons_of_ne {name other : String} (ne : other ≠ name) (entry : Entry)
    (rest : List (String × Entry)) : ((name, entry) :: rest).lookup other = rest.lookup other := by
  rw [List.lookup_cons, beq_eq_false_iff_ne.mpr ne]

/-- Setting an entry of a directory changes what its name leads to and nothing else. -/
theorem lookup_setEntry (name other : String) (target : Entry) (entries : List (String × Entry)) :
    (setEntry name target entries).lookup other =
      if other = name then some target else entries.lookup other := by
  induction entries with
  | nil =>
    by_cases same : other = name
    · rw [setEntry, same, List.lookup_cons_self, if_pos rfl]
    · rw [setEntry, lookup_cons_of_ne same, if_neg same]
  | cons entry rest ih =>
    obtain ⟨first, known⟩ := entry
    by_cases found : first = name
    · subst found
      rw [setEntry, if_pos rfl]
      by_cases same : other = first
      · rw [same, List.lookup_cons_self, if_pos rfl]
      · rw [lookup_cons_of_ne same, lookup_cons_of_ne same, if_neg same]
    · rw [setEntry, if_neg found]
      by_cases same : other = first
      · rw [same, List.lookup_cons_self, List.lookup_cons_self, if_neg found]
      · rw [lookup_cons_of_ne same, lookup_cons_of_ne same, ih]

/-- A directory stays one when something is set below it, and a file stays a file. -/
theorem isDirectory_put (rest : List String) :
    (put target (name :: rest) tree).isDirectory = tree.isDirectory := by
  cases tree with
  | file content => rfl
  | directory entries =>
    cases rest with
    | nil => rfl
    | cons next rest => simp only [put]; split <;> rfl

/-- What is set below a directory makes a directory of it. -/
theorem exists_put_directory {entries : List (String × Entry)} (further : place ≠ []) :
    ∃ entries', put target place (.directory entries) = .directory entries' := by
  obtain ⟨name, rest, rfl⟩ := List.exists_cons_of_ne_nil further
  cases rest with
  | nil => exact ⟨_, rfl⟩
  | cons next rest =>
    rw [put]
    split <;> exact ⟨_, rfl⟩

/-- What is set below an entry leaves the other entries alone. -/
theorem child?_put_of_ne {other : String} (rest : List String) (ne : other ≠ name) :
    (put target (name :: rest) tree).child? other = tree.child? other := by
  cases tree with
  | file content => rfl
  | directory entries =>
    cases rest with
    | nil => simp [put, child?, Entry.entries, lookup_setEntry, ne]
    | cons next rest =>
      simp only [put]
      split <;> simp [child?, Entry.entries, lookup_setEntry, ne]

/-- What is set further down is set below the first entry on the way, if there is one. -/
theorem child?_put (name : String) {rest : List String} (further : rest ≠ []) :
    (put target (name :: rest) tree).child? name = (tree.child? name).map (put target rest) := by
  cases tree with
  | file content => rfl
  | directory entries =>
    obtain ⟨next, rest, rfl⟩ := List.exists_cons_of_ne_nil further
    simp only [put]
    cases known : entries.lookup name with
    | none => simp [child?, Entry.entries, known]
    | some child => simp [child?, Entry.entries, known, lookup_setEntry]

/-- On the way to a place lies what lay there, with the entry set below it. -/
theorem at?_put_above (tree : Entry) (above : List String) {rest : List String}
    (further : rest ≠ []) :
    (put target (above ++ rest) tree).at? above = (tree.at? above).map (put target rest) := by
  induction above generalizing tree with
  | nil => simp [at?]
  | cons name above ih =>
    have further' : above ++ rest ≠ [] := by simp [further]
    rw [List.cons_append, at?, at?, child?_put name further']
    cases child : tree.child? name with
    | none => rfl
    | some below => exact ih below

/-- At its place in a directory lies the entry that was set. -/
theorem at?_put_self (room : tree.HasDirectory above) :
    (put target (above ++ [name]) tree).at? (above ++ [name]) = some target := by
  obtain ⟨entries, there⟩ := room
  have set : (put target (above ++ [name]) tree).at? above =
      some (.directory (setEntry name target entries)) := by
    rw [at?_put_above tree above (List.cons_ne_nil name []), there]
    rfl
  rw [at?_concat set, lookup_setEntry, if_pos rfl]

/-- Neither at the place of an entry nor on the way there or below it, nothing changes. -/
theorem at?_put_apart {other : List String} (notBelow : ¬ place <+: other)
    (notAbove : ¬ other <+: place) : (put target place tree).at? other = tree.at? other := by
  induction place generalizing tree other with
  | nil => exact absurd (List.nil_prefix) notBelow
  | cons name rest ih =>
    cases other with
    | nil => exact absurd (List.nil_prefix) notAbove
    | cons first other =>
      by_cases same : first = name
      · subst same
        rw [List.prefix_cons_inj] at notBelow notAbove
        have further : rest ≠ [] := by
          rintro rfl
          exact notBelow List.nil_prefix
        rw [at?, at?, child?_put first further]
        cases child : tree.child? first with
        | none => rfl
        | some below => exact ih notBelow notAbove
      · rw [at?, at?, child?_put_of_ne rest same]

/-! ## Places that hold the same -/

variable {before middle after : Entry} {other : List String} {bytes : ByteArray}

/-- The bytes of a file; none for a directory. -/
def content? : Entry → Option ByteArray
  | .file content => some content
  | .directory _ => none

/-- The bytes of an entry stay when something is set below it. -/
theorem content?_put (further : place ≠ []) : (put target place tree).content? = tree.content? := by
  obtain ⟨name, rest, rfl⟩ := List.exists_cons_of_ne_nil further
  cases tree with
  | file content => rfl
  | directory entries =>
    cases rest with
    | nil => rfl
    | cons next rest =>
      rw [put]
      split <;> rfl

/-- At the place of an entry lies the entry, or what lay there if it could not be set. -/
theorem at?_put_place (target tree : Entry) (place : List String) :
    (put target place tree).at? place = some target ∨
      (put target place tree).at? place = tree.at? place := by
  induction place generalizing tree with
  | nil => exact Or.inl rfl
  | cons name rest ih =>
    cases rest with
    | nil =>
      cases tree with
      | file content => exact Or.inr rfl
      | directory entries =>
        left
        show ((setEntry name target entries).lookup name).bind (fun entry => entry.at? []) = _
        rw [lookup_setEntry, if_pos rfl]
        rfl
    | cons next rest =>
      rw [at?, at?, child?_put name (List.cons_ne_nil next rest)]
      cases tree.child? name with
      | none => exact Or.inr rfl
      | some below => exact ih below

/-- A place holds the same in two trees: a directory, a file with the same bytes, or nothing. -/
def SameAt (tree other : Entry) (place : List String) : Prop :=
  (tree.at? place).map content? = (other.at? place).map content?

/-- What has nothing below it, set where no directory is, leaves every other place the same. -/
theorem sameAt_put (leaf : ∀ rest, rest ≠ [] → target.at? rest = none)
    (free : ¬ tree.HasDirectory place) (differ : other ≠ place) :
    SameAt tree (put target place tree) other := by
  unfold SameAt
  by_cases below : place <+: other
  · -- Below the place there was nothing, and there is nothing.
    obtain ⟨rest, rfl⟩ := below
    have further : rest ≠ [] := by
      rintro rfl
      exact differ (List.append_nil place)
    have before : tree.at? (place ++ rest) = none := by
      rw [at?_append]
      cases found : tree.at? place with
      | none => rfl
      | some entry =>
        cases entry with
        | directory entries => exact absurd ⟨entries, found⟩ free
        | file content =>
          rw [Option.bind_some, Option.eq_none_iff_forall_ne_some]
          exact fun entry lies => further (at?_file_eq_some lies).1
    rw [before, at?_append]
    -- Where a directory above the place is missing, nothing is set and nothing is below it still.
    rcases at?_put_place target tree place with set | kept
    · rw [set, Option.bind_some, leaf rest further]
    · rw [kept, ← at?_append, before]
  · by_cases onTheWay : other <+: place
    · -- On the way to the place the directories have other entries, and are directories as before.
      obtain ⟨rest, rfl⟩ := onTheWay
      have further : rest ≠ [] := by
        rintro rfl
        exact differ (List.append_nil other).symm
      rw [at?_put_above tree other further, Option.map_map]
      congr 1
      funext entry
      exact (content?_put further).symm
    · rw [at?_put_apart below onTheWay]

/-- A place with nothing in one tree has nothing in the other if it is the same. -/
theorem SameAt.at?_eq_none (same : SameAt before after place) (free : before.at? place = none) :
    after.at? place = none := by
  unfold SameAt at same
  rw [free, Option.map_none, eq_comm, Option.map_eq_none_iff] at same
  exact same

/-- A place with a directory in one tree has one in the other if it is the same. -/
theorem SameAt.hasDirectory (same : SameAt before after place)
    (there : before.HasDirectory place) : after.HasDirectory place := by
  obtain ⟨entries, found⟩ := there
  unfold SameAt at same
  rw [found, Option.map_some, eq_comm, Option.map_eq_some_iff] at same
  obtain ⟨entry, found', isDirectory⟩ := same
  cases entry with
  | file content => cases isDirectory
  | directory entries' => exact ⟨entries', found'⟩

/-- What is the same in one tree after the other, is the same in the last as in the first. -/
theorem SameAt.trans (same : SameAt before middle place) (same' : SameAt middle after place) :
    SameAt before after place := Eq.trans same same'

/-- What is the same in two trees is so in either order. -/
theorem SameAt.symm (same : SameAt before after place) : SameAt after before place := Eq.symm same

/-- A file with certain bytes is what a place holds. -/
theorem at?_eq_file_iff :
    tree.at? place = some (.file bytes) ↔ (tree.at? place).map content? = some (some bytes) := by
  rw [Option.map_eq_some_iff]
  constructor
  · intro found
    exact ⟨_, found, rfl⟩
  · rintro ⟨entry, found, holds⟩
    cases entry with
    | file content =>
      cases holds
      exact found
    | directory entries => cases holds

/-- A place that is the same has the same file. -/
theorem SameAt.at?_eq_file_iff (same : SameAt before after place) :
    after.at? place = some (.file bytes) ↔ before.at? place = some (.file bytes) := by
  unfold SameAt at same
  rw [Entry.at?_eq_file_iff, Entry.at?_eq_file_iff, same]

/-- What is told of a place, whatever a directory there has in it, is told of both trees if the
place is the same. -/
theorem SameAt.apply_eq {α : Type} (same : SameAt before after place) (f : Option Entry → α)
    (alike : ∀ entries entries', f (some (.directory entries)) = f (some (.directory entries'))) :
    f (after.at? place) = f (before.at? place) := by
  cases lies : before.at? place with
  | none => rw [same.at?_eq_none lies]
  | some entry =>
    cases entry with
    | file content => rw [same.at?_eq_file_iff.mpr lies]
    | directory entries =>
      obtain ⟨entries', lies'⟩ := same.hasDirectory ⟨entries, lies⟩
      rw [lies']
      exact alike entries' entries

/-- Two trees hold the same under certain names, wherever these are. -/
def SameUnder (names : List String) (tree other : Entry) : Prop :=
  ∀ above, ∀ name ∈ names, SameAt tree other (above ++ [name])

/-- Trees that hold the same do so in either order. -/
theorem SameUnder.symm {names : List String} (same : SameUnder names before after) :
    SameUnder names after before := fun above name mem => (same above name mem).symm

/-- What is at a place of two trees holds the same under the names, if the trees do. -/
theorem SameUnder.of_at? {names : List String} {entry entry' : Entry}
    (same : SameUnder names before after) (there : before.at? place = some entry)
    (there' : after.at? place = some entry') : SameUnder names entry entry' := by
  intro above name mem
  have further := same (place ++ above) name mem
  unfold SameAt at further ⊢
  rwa [List.append_assoc, at?_append before, at?_append after, there, there', Option.bind_some,
    Option.bind_some] at further

/-! ## Names that are used once -/

/-- A tree in which no directory has two entries of one name. -/
inductive IsTree : Entry → Prop where
  /-- A file has no entries. -/
  | file (content : ByteArray) : IsTree (.file content)
  /-- The entries of a directory have names of their own, and are such trees themselves. -/
  | directory {entries : List (String × Entry)} (names : (entries.map Prod.fst).Nodup)
      (below : ∀ named ∈ entries, IsTree named.2) : IsTree (.directory entries)

/-- Where names are not used twice, a name leads to each entry that has it. -/
theorem lookup_eq_some_of_mem {entries : List (String × Entry)}
    (names : (entries.map Prod.fst).Nodup) (mem : (name, target) ∈ entries) :
    entries.lookup name = some target := by
  obtain ⟨before, behind, rfl⟩ := List.append_of_mem mem
  rw [List.lookup_eq_some_iff]
  refine ⟨before, behind, rfl, fun other earlier => ?_⟩
  rw [List.map_append, List.map_cons, List.nodup_append] at names
  have apart := names.2.2 other.1 (List.mem_map_of_mem earlier) name List.mem_cons_self
  simpa using Ne.symm apart

/-- A name leads to one of the entries. -/
theorem mem_of_lookup {entries : List (String × Entry)}
    (found : entries.lookup name = some target) : (name, target) ∈ entries := by
  obtain ⟨front, behind, rfl, -⟩ := List.lookup_eq_some_iff.mp found
  exact List.mem_append_right front List.mem_cons_self

/-- What lies somewhere in a tree whose names are used once is such a tree. -/
theorem IsTree.of_at? (isTree : tree.IsTree) {entry : Entry} (there : tree.at? place = some entry) :
    entry.IsTree := by
  induction place generalizing tree with
  | nil =>
    cases there
    exact isTree
  | cons name rest ih =>
    obtain ⟨child, found, further⟩ := Option.bind_eq_some_iff.mp there
    cases isTree with
    | file content => cases found
    | directory names below =>
      rw [child?, entries] at found
      exact ih (below (name, child) (mem_of_lookup found)) further

/-- An entry of a directory after one was set is that one, or was there before. -/
theorem mem_setEntry {entries : List (String × Entry)} {named : String × Entry}
    (mem : named ∈ setEntry name target entries) : named = (name, target) ∨ named ∈ entries := by
  induction entries with
  | nil => exact Or.inl (List.mem_singleton.mp mem)
  | cons entry rest ih =>
    obtain ⟨first, known⟩ := entry
    rw [setEntry] at mem
    split at mem
    · next same =>
      rw [same] at mem
      exact (List.mem_cons.mp mem).imp_right (List.mem_cons_of_mem _)
    · rcases List.mem_cons.mp mem with rfl | later
      · exact Or.inr List.mem_cons_self
      · exact (ih later).imp_right (List.mem_cons_of_mem _)

/-- Setting an entry of a directory adds no name that is there already. -/
theorem nodup_setEntry {entries : List (String × Entry)} (names : (entries.map Prod.fst).Nodup) :
    ((setEntry name target entries).map Prod.fst).Nodup := by
  induction entries with
  | nil => exact List.nodup_singleton name
  | cons entry rest ih =>
    obtain ⟨first, known⟩ := entry
    rw [setEntry]
    split
    · exact names
    · next other =>
      rw [List.map_cons, List.nodup_cons] at names ⊢
      refine ⟨fun mem => ?_, ih names.2⟩
      obtain ⟨named, listed, isFirst⟩ := List.mem_map.mp mem
      obtain rfl | old := mem_setEntry listed
      · exact other isFirst.symm
      · exact names.1 (isFirst ▸ List.mem_map_of_mem old)

/-- Names are used once after an entry was set that is such a tree itself. -/
theorem IsTree.put (isTree : tree.IsTree) (isTree' : target.IsTree) (place : List String) :
    (Entry.put target place tree).IsTree := by
  induction place generalizing tree with
  | nil => exact isTree'
  | cons name rest ih =>
    cases isTree with
    | file content => exact .file content
    | @directory entries names below =>
      -- The directory gets no name twice, and what it gets is such a tree.
      have set : ∀ {child : Entry}, child.IsTree →
          (Entry.directory (setEntry name child entries)).IsTree := by
        intro child isChild
        refine .directory (nodup_setEntry names) fun named mem => ?_
        obtain rfl | old := mem_setEntry mem
        · exact isChild
        · exact below named old
      cases rest with
      | nil => exact set isTree'
      | cons next rest =>
        simp only [Entry.put]
        cases known : entries.lookup name with
        | none => exact .directory names below
        | some child => exact set (ih (below _ (mem_of_lookup known)))

end TypedMvc.Files.Entry
