import Imapdl.Basic

/-!
# imapdl - The maildir and the buffer proxy

The client streams each message body through `buffer_proxy_` into a temporary file of the
maildir and then renames it into {lit}`new/` or {lit}`cur/`.  The maildir class and
`Buffer::File` are not among the repository's sources; this module models them from the
specification's interface: {lit}`create_tmp_name`, opening a file in {lit}`tmp/`,
{lit}`move_to_new` and {lit}`move_to_cur`.  A temporary name is modelled by the serial number
{lit}`create_tmp_name` makes it from, which is what makes it fresh.

Main definitions:

- Structure {lit}`Maildir`: the temporary files with their bytes, the name
  {lit}`create_tmp_name` gave last, and the messages delivered so far.
- Definition {lit}`Maildir.moveTo`: the rename, failing when the temporary file is gone.

- Structure {lit}`Maildir.Orderly`: the names of the maildir are fresh and the messages are
  delivered in increasing order of name.

Main results:

- Theorem {lit}`Maildir.moveTo_stream`: a file created, opened, written and renamed in a maildir
  whose temporary names are fresh is delivered with exactly the bytes written to it, and
  {lit}`tmp/` is left as it was.
- Theorems {lit}`Maildir.Orderly.openTmp_createTmpName`, {lit}`Maildir.Orderly.append` and
  {lit}`Maildir.Orderly.moveTo`: the operations the client uses keep the names in order.
-/

namespace Imapdl

/-- Where `buffer_proxy_` points: at the memory buffer `buffer_` or at `file_buffer_`. -/
inductive Target
  | memory | file
deriving DecidableEq, Repr

/-- Modelled from the spec: `Buffer::File`, a file of the maildir's `tmp/`, open or closed. -/
structure FileBuffer where
  name : Nat
  isOpen : Bool
deriving DecidableEq, Repr

/-- `Buffer::File::close`. -/
def FileBuffer.close (f : FileBuffer) : FileBuffer := { f with isOpen := false }

/-- A message renamed out of `tmp/`: into `new/` (`flags = none`) or into `cur/` with the flag
suffix `flags`. -/
structure Delivery where
  name : Nat
  flags : Option (List Char)
  contents : List Char
deriving DecidableEq, Repr

/-- Modelled from the spec: the maildir interface, with the files of `tmp/` and their bytes. -/
structure Maildir where
  serial : Nat
  tmpName : Nat
  tmp : List (Nat × List Char)
  delivered : List Delivery
deriving DecidableEq, Repr

namespace Maildir

/-- The empty maildir. -/
def empty : Maildir := ⟨0, 0, [], []⟩

/-- `create_tmp_name`: a fresh name, which the next `move_to_new` or `move_to_cur` renames. -/
def createTmpName (m : Maildir) : Maildir :=
  { m with serial := m.serial + 1, tmpName := m.serial }

/-- `Buffer::File(tmp_dir_, name)`: an empty file of that name in `tmp/`. -/
def openTmp (name : Nat) (m : Maildir) : Maildir :=
  { m with tmp := m.tmp ++ [(name, [])] }

/-- Bytes written to the file `name` of `tmp/`. -/
def append (name : Nat) (bs : List Char) (m : Maildir) : Maildir :=
  { m with tmp := m.tmp.map fun e => if e.1 = name then (e.1, e.2 ++ bs) else e }

/-- The rename of the last created temporary file, with `flags` as described at `Delivery`. -/
def moveTo (flags : Option (List Char)) (m : Maildir) : Except Failure Maildir :=
  match m.tmp.lookup m.tmpName with
  | none => .error (.maildir m.tmpName)
  | some bs => .ok { m with tmp := m.tmp.filter (·.1 != m.tmpName),
                            delivered := m.delivered ++ [⟨m.tmpName, flags, bs⟩] }

/-- `move_to_new()`. -/
def moveToNew (m : Maildir) : Except Failure Maildir := m.moveTo none

/-- `move_to_cur(flags)`. -/
def moveToCur (flags : List Char) (m : Maildir) : Except Failure Maildir := m.moveTo (some flags)

/-! ## Streaming one file -/

/-- Every file of {lit}`tmp/` has a name {lit}`create_tmp_name` gave before its current serial, so
the next name it gives is fresh. -/
def Fresh (m : Maildir) : Prop := ∀ e ∈ m.tmp, e.1 < m.serial

instance (m : Maildir) : Decidable m.Fresh := inferInstanceAs (Decidable (∀ e ∈ m.tmp, _))

/-- What streaming one file leaves: the serial used up, and the file with its bytes delivered. -/
def deliver (flags : Option (List Char)) (bytes : List Char) (m : Maildir) : Maildir :=
  { m with serial := m.serial + 1, tmpName := m.serial,
           delivered := m.delivered ++ [⟨m.serial, flags, bytes⟩] }

@[simp] theorem append_nil (name : Nat) (m : Maildir) : m.append name [] = m := by
  simp [append]

theorem append_append (name : Nat) (a b : List Char) (m : Maildir) :
    (m.append name a).append name b = m.append name (a ++ b) := by
  simp only [append, List.map_map, mk.injEq, and_true, true_and]
  apply List.map_congr_left
  intro e _
  by_cases h : e.1 = name <;> simp [h]

/-- A rename delivers exactly one file. -/
theorem moveTo_length {m m' : Maildir} {flags : Option (List Char)}
    (h : m.moveTo flags = .ok m') : m'.delivered.length = m.delivered.length + 1 := by
  unfold moveTo at h
  split at h
  · cases h
  · cases h
    simp

theorem Fresh.deliver {m : Maildir} (h : m.Fresh) (flags : Option (List Char))
    (bytes : List Char) : (m.deliver flags bytes).Fresh :=
  fun e he => Nat.lt_succ_of_lt (h e he)

/-- Streaming a file through a fresh name: create it, open it, write {lit}`bytes`, rename it. -/
theorem moveTo_stream {m : Maildir} (h : m.Fresh) (flags : Option (List Char))
    (bytes : List Char) :
    ((m.createTmpName.openTmp m.serial).append m.serial bytes).moveTo flags =
      .ok (m.deliver flags bytes) := by
  have hne : ∀ e ∈ m.tmp, e.1 ≠ m.serial := fun e he => Nat.ne_of_lt (h e he)
  have htmp : ((m.createTmpName.openTmp m.serial).append m.serial bytes).tmp =
      m.tmp ++ [(m.serial, bytes)] := by
    simp only [append, openTmp, createTmpName, List.map_append, List.map_cons, List.map_nil,
      if_pos, List.nil_append]
    rw [List.map_congr_left (fun e he => if_neg (hne e he)), List.map_id']
  have hlook : (m.tmp ++ [(m.serial, bytes)]).lookup m.serial = some bytes := by
    rw [List.lookup_append,
      List.lookup_eq_none_iff.mpr (fun p hp => by simpa using (hne p hp).symm)]
    simp
  have hfilter : (m.tmp ++ [(m.serial, bytes)]).filter (·.1 != m.serial) = m.tmp := by
    rw [List.filter_append, List.filter_eq_self.mpr (fun p hp => by simpa using hne p hp)]
    simp
  simp only [moveTo, htmp]
  simp [hlook, hfilter, deliver, createTmpName, openTmp, append]

/-! ## Names of the deliveries -/

/-- The names the maildir holds are in order: every temporary file and every delivered message
has a name {lit}`create_tmp_name` gave before the current serial, the messages were delivered
in increasing order of name, and while the file of the last name given is in {lit}`tmp/` that
name is above every delivered one. -/
structure Orderly (m : Maildir) : Prop where
  fresh : m.Fresh
  delivered_lt : ∀ d ∈ m.delivered, d.name < m.serial
  pending : (∃ e ∈ m.tmp, e.1 = m.tmpName) → ∀ d ∈ m.delivered, d.name < m.tmpName
  increasing : (m.delivered.map Delivery.name).Pairwise (· < ·)

theorem empty_orderly : empty.Orderly :=
  ⟨fun _ h => (nomatch h), fun _ h => (nomatch h), fun _ _ h => (nomatch h), List.Pairwise.nil⟩

/-- Opening a file under a fresh name keeps the order: the new name is above every delivered
one. -/
theorem Orderly.openTmp_createTmpName {m : Maildir} (h : m.Orderly) :
    (m.createTmpName.openTmp m.createTmpName.tmpName).Orderly where
  fresh e he := by
    rcases List.mem_append.1 he with he | he
    · exact Nat.lt_succ_of_lt (h.fresh e he)
    · rw [List.mem_singleton.1 he]
      exact Nat.lt_succ_self _
  delivered_lt d hd := Nat.lt_succ_of_lt (h.delivered_lt d hd)
  pending _ := h.delivered_lt
  increasing := h.increasing

/-- Writing to a file of {lit}`tmp/` keeps its name. -/
theorem Orderly.append {m : Maildir} (h : m.Orderly) (name : Nat) (bs : List Char) :
    (m.append name bs).Orderly := by
  have hnames : ∀ e ∈ (m.append name bs).tmp, ∃ e' ∈ m.tmp, e'.1 = e.1 := by
    intro e he
    obtain ⟨e', he', rfl⟩ := List.mem_map.1 he
    exact ⟨e', he', by split <;> rfl⟩
  refine ⟨fun e he => ?_, h.delivered_lt, fun ⟨e, he, hn⟩ => ?_, h.increasing⟩
  · obtain ⟨e', he', hn⟩ := hnames e he
    exact hn ▸ h.fresh e' he'
  · obtain ⟨e', he', hn'⟩ := hnames e he
    exact h.pending ⟨e', he', hn'.trans hn⟩

/-- The rename delivers the last name given, which is above every delivered one, and takes its
file out of {lit}`tmp/`. -/
theorem Orderly.moveTo {m m' : Maildir} {flags : Option (List Char)} (h : m.Orderly)
    (hm : m.moveTo flags = .ok m') : m'.Orderly := by
  unfold Maildir.moveTo at hm
  split at hm
  · cases hm
  · rename_i bs hl
    cases hm
    have hmem : (m.tmpName, bs) ∈ m.tmp := by
      obtain ⟨l₁, l₂, heq, -⟩ := List.lookup_eq_some_iff.1 hl
      exact heq ▸ List.mem_append_right _ (List.mem_cons_self _ _)
    have hlt := h.pending ⟨_, hmem, rfl⟩
    refine ⟨fun e he => h.fresh e (List.mem_of_mem_filter he), fun d hd => ?_,
      fun ⟨e, he, hn⟩ => ?_, ?_⟩
    · rcases List.mem_append.1 hd with hd | hd
      · exact h.delivered_lt d hd
      · rw [List.mem_singleton.1 hd]
        exact h.fresh _ hmem
    · simp [hn] at he
    · simpa [List.pairwise_append] using ⟨h.increasing, hlt⟩

end Maildir

end Imapdl
