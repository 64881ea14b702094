import Mathlib.Data.List.Perm.Subperm
import SchemaScribe.Proofs.Naming.Names

/-!
# The search for a free name ends within its bound

A name that is taken is tried with one number after another, and the search gives up after a number of
attempts that is fixed before. The attempts are a list without repetitions (`attempts_nodup`): the name
itself, and one numbered name more for each of the bound. So as many taken names as the bound says cannot be
in the way of all of them (`uniqueName_isSome`).

The columns of a table get their properties in turn with the number of columns as the bound. There are
always fewer properties taken than this, so every column gets one (`exists_nameColumns`).
-/

namespace SchemaScribe

open SchemaScribe.Catalog

/-! ## The attempts of a search -/

/-- The names that a search tries in turn: the candidate, then the candidate with numbers from two on. -/
def attempts (candidate : String) (limit : Nat) : List String :=
  candidate :: (List.range' 2 limit).map (numbered candidate)

theorem length_attempts (candidate : String) (limit : Nat) :
    (attempts candidate limit).length = limit + 1 := by
  simp [attempts]

theorem firstNumbered_eq_find? (candidate : String) (free : String → Bool) (n limit : Nat) :
    firstNumbered candidate free n limit =
      ((List.range' n limit).map (numbered candidate)).find? free := by
  induction limit generalizing n with
  | zero => rfl
  | succ limit ih =>
    rw [firstNumbered, List.range'_succ, List.map_cons, List.find?_cons, ih]
    by_cases hfree : free (numbered candidate n) = true
    · simp [hfree]
    · simp [hfree]

/-- The search answers the first of its attempts that is free. -/
theorem firstFree_eq_find? (candidate : String) (free : String → Bool) (limit : Nat) :
    firstFree candidate free limit = (attempts candidate limit).find? free := by
  rw [firstFree, attempts, List.find?_cons, firstNumbered_eq_find?]
  by_cases hfree : free candidate = true
  · simp [hfree]
  · simp [hfree]

/-- A number can be read off the name that it was put behind. -/
theorem numbered_injective (candidate : String) : Function.Injective (numbered candidate) := by
  intro n n' h
  have hlist := congrArg String.toList h
  rw [toList_numbered, toList_numbered] at hlist
  have hdigits : Nat.toDigits 10 n = Nat.toDigits 10 n' := List.append_cancel_left hlist
  have hread := congrArg (Nat.ofDigitChars 10 · 0) hdigits
  simpa using hread

theorem numbered_ne (candidate : String) (n : Nat) : numbered candidate n ≠ candidate := by
  intro h
  have hlist := congrArg String.toList h
  rw [toList_numbered] at hlist
  exact Nat.toDigits_ne_nil (List.append_right_eq_self.mp hlist)

theorem attempts_nodup (candidate : String) (limit : Nat) : (attempts candidate limit).Nodup := by
  have hnumbers : (List.range' 2 limit).Nodup := List.nodup_range'
  refine List.nodup_cons.mpr ⟨?_, hnumbers.map (numbered_injective candidate)⟩
  intro hmem
  obtain ⟨n, _, hn⟩ := List.mem_map.mp hmem
  exact numbered_ne candidate n hn

/-! ## Unique names -/

/-- **A unique name is found** among no more names than the bound: every attempt that is blocked uses up one of
the names, and there is one attempt more than these. -/
theorem uniqueName_isSome (candidate : String) {taken : List String} {limit : Nat}
    (h : taken.length ≤ limit) : (uniqueName candidate taken limit).isSome := by
  rw [uniqueName, firstFree_eq_find?, List.find?_isSome]
  by_contra hnone
  -- otherwise every attempt is taken, and there are more attempts than taken names
  have hsub : attempts candidate limit ⊆ taken := by
    intro name hname
    by_contra hfree
    exact hnone ⟨name, hname, by simpa using hfree⟩
  have hlength := ((attempts_nodup candidate limit).subperm hsub).length_le
  rw [length_attempts] at hlength
  omega

/-! ## Properties of columns -/

/-- **The columns of a table are named** as long as no more properties are taken than it has other columns. -/
theorem exists_nameColumns (o : Options) (schema : Option String) (named : List NamedTable) (t : Table)
    (columns : List Column) (taken : List String) (hroom : taken.length + columns.length ≤ t.columns.length) :
    ∃ out, nameColumns o schema named t taken columns = .ok out := by
  induction columns generalizing taken with
  | nil => exact ⟨[], rfl⟩
  | cons c rest ih =>
    rw [List.length_cons] at hroom
    rw [nameColumns]
    split
    · apply ih
      omega
    · next type _ =>
      have hfree : taken.length ≤ t.columns.length := by omega
      obtain ⟨property, hproperty⟩ := Option.isSome_iff_exists.mp
        (uniqueName_isSome (guardReserved (propertyName c.name o)) hfree)
      have hmore : ∃ more, nameColumns o schema named t (taken ++ [property]) rest = .ok more := by
        apply ih
        rw [List.length_append, List.length_singleton]
        omega
      obtain ⟨more, hmore⟩ := hmore
      rw [hproperty]
      refine ⟨entityColumn t c property type (columnTarget? schema named t c.name) :: more, ?_⟩
      show nameColumns o schema named t (taken ++ [property]) rest >>= _ = _
      rw [hmore]
      rfl

end SchemaScribe
