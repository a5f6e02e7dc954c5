import OpenApiJava.FilePath

/-!
# Disks

A disk has folders and files, each at its own location: the names that lead to it from the root.
Main statements: what is put at a location is found there, and nothing changes elsewhere.
-/

namespace OpenApiJava

/-- The names that lead from the root of a disk to what stands there. -/
abbrev Location := List String

/-- What stands at a location. -/
inductive Entry where
  | folder
  | file (content : ByteArray)
deriving Inhabited

instance : DecidableEq Entry
  | .folder, .folder => isTrue rfl
  | .folder, .file _ => isFalse nofun
  | .file _, .folder => isFalse nofun
  | .file first, .file second =>
      decidable_of_iff (first.data = second.data)
        ((ByteArray.ext_iff).symm.trans (Entry.file.injEq first second ▸ Iff.rfl))

/-- Why something cannot be done at a path. -/
inductive DiskProblem where
  | missing
  | occupied
  | notFolder
  | isFolder
  | nameTooLong
deriving DecidableEq, Repr

namespace DiskProblem

/-- The number by which the system knows a problem. -/
def number : DiskProblem → Nat
  | missing => 2
  | occupied => 17
  | notFolder => 20
  | isFolder => 21
  | nameTooLong => 36

/-- The words by which the system knows a problem. -/
def words : DiskProblem → String
  | missing => "No such file or directory"
  | occupied => "File exists"
  | notFolder => "Not a directory"
  | isFolder => "Is a directory"
  | nameTooLong => "File name too long"

end DiskProblem

/-- What stands on a disk. No location occurs twice. -/
structure Disk where
  entries : List (Location × Entry)
  distinct : (entries.map Prod.fst).Nodup

/-- The longest name that something can have, in bytes. -/
def longestName : Nat := 255

namespace Disk

/-- A disk with nothing on it but its root. -/
def empty : Disk :=
  ⟨[([], .folder)], by simp⟩

instance : Inhabited Disk := ⟨empty⟩

/-- What stands at a location. -/
def find? (disk : Disk) (location : Location) : Option Entry :=
  disk.entries.lookup location

/-- The entries at other locations than the given one. -/
def without (disk : Disk) (location : Location) : List (Location × Entry) :=
  disk.entries.filter fun entry => entry.1 != location

theorem distinct_without (disk : Disk) (location : Location) :
    ((disk.without location).map Prod.fst).Nodup :=
  disk.distinct.sublist (List.filter_sublist.map Prod.fst)

theorem not_mem_without (disk : Disk) (location : Location) :
    location ∉ (disk.without location).map Prod.fst := by
  simp [without]

/-- The disk with an entry at a location, whatever stood there before. -/
def put (disk : Disk) (location : Location) (entry : Entry) : Disk where
  entries := (location, entry) :: disk.without location
  distinct := List.nodup_cons.mpr ⟨disk.not_mem_without location, disk.distinct_without location⟩

/-- The disk with nothing at a location. -/
def remove (disk : Disk) (location : Location) : Disk :=
  ⟨disk.without location, disk.distinct_without location⟩

/-- The location that names lead to from a place. Only the last name may lead to nothing; a double
dot leads out of a folder, and at the root it leads nowhere. -/
def reach (disk : Disk) (place : Location) : List String → Except DiskProblem Location
  | [] => .ok place
  | name :: rest =>
      match disk.find? place with
      | none => .error .missing
      | some (.file _) => .error .notFolder
      | some .folder =>
          if name == ".." then disk.reach place.dropLast rest
          else if longestName < name.utf8ByteSize then .error .nameTooLong
          else disk.reach (place ++ [name]) rest

theorem lookup_cons_if
    (place other : Location) (entry : Entry) (rest : List (Location × Entry)) :
    ((place, entry) :: rest).lookup other =
      if other = place then some entry else rest.lookup other := by
  by_cases same : other = place
  · simp [same]
  · rw [List.lookup_cons, beq_false_of_ne same]
    simp [same]

theorem lookup_without_of_ne
    (disk : Disk) {location other : Location} (different : other ≠ location) :
    (disk.without location).lookup other = disk.find? other := by
  unfold without find?
  induction disk.entries with
  | nil => rfl
  | cons entry rest inductionHypothesis =>
      obtain ⟨place, content⟩ := entry
      by_cases here : place = location
      · simp only [here, bne_self_eq_false, Bool.false_eq_true, not_false_eq_true,
          List.filter_cons_of_neg, inductionHypothesis, lookup_cons_if, different, if_false]
      · simp [here, inductionHypothesis, lookup_cons_if]

theorem lookup_without_self (disk : Disk) (location : Location) :
    (disk.without location).lookup location = none := by
  unfold without
  induction disk.entries with
  | nil => rfl
  | cons entry rest inductionHypothesis =>
      obtain ⟨place, content⟩ := entry
      by_cases here : place = location
      · simp [here, inductionHypothesis]
      · simp [here, inductionHypothesis, lookup_cons_if, Ne.symm here]

/-- What is put at a location is found there. -/
@[simp]
theorem find?_put_self (disk : Disk) (location : Location) (entry : Entry) :
    (disk.put location entry).find? location = some entry := by
  simp [find?, put]

/-- Nothing changes elsewhere. -/
theorem find?_put_of_ne
    (disk : Disk) {location other : Location} (entry : Entry)
    (different : other ≠ location) :
    (disk.put location entry).find? other = disk.find? other := by
  have same := disk.lookup_without_of_ne different
  simp only [find?, put, List.lookup_cons]
  rw [beq_false_of_ne different]
  exact same

@[simp]
theorem find?_remove_self (disk : Disk) (location : Location) :
    (disk.remove location).find? location = none :=
  disk.lookup_without_self location

theorem find?_remove_of_ne
    (disk : Disk) {location other : Location} (different : other ≠ location) :
    (disk.remove location).find? other = disk.find? other :=
  disk.lookup_without_of_ne different

end Disk

end OpenApiJava
