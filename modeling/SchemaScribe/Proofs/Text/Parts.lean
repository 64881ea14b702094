import Mathlib.Data.List.Basic

/-!
# Texts put together from parts

Parts that are joined with separators can be told apart again where no separator occurs in them. A text is
read from left to right: up to the first separator there is one way to read it (`append_cons_inj`), and a list
that ends at its first closing character is split at its separators (`listed_inj`).
-/

namespace SchemaScribe.Text

/-! ## Characters of joined texts -/

/-- What holds of the items of some lists and of what joins them holds of those of the joined list. -/
theorem forall_mem_joined {α : Type u} {P : α → Prop} {separator : List α} {items : List (List α)}
    (hseparator : ∀ a ∈ separator, P a) (h : ∀ item ∈ items, ∀ a ∈ item, P a) :
    ∀ a ∈ separator.intercalate items, P a := by
  induction items with
  | nil => exact List.forall_mem_nil _
  | cons item rest ih =>
    obtain ⟨hitem, hrest⟩ := List.forall_mem_cons.mp h
    cases rest with
    | nil =>
      rw [List.intercalate_singleton]
      exact hitem
    | cons next more =>
      rw [List.intercalate_cons_cons, List.forall_mem_append, List.forall_mem_append]
      exact ⟨⟨hitem, hseparator⟩, ih hrest⟩

/-- What holds of the characters of some texts and of what joins them holds of those of the joined text. -/
theorem forall_mem_intercalate {P : Char → Prop} {separator : String} {items : List String}
    (hseparator : ∀ c ∈ separator.toList, P c) (h : ∀ item ∈ items, ∀ c ∈ item.toList, P c) :
    ∀ c ∈ (separator.intercalate items).toList, P c := by
  rw [String.toList_intercalate]
  exact forall_mem_joined hseparator (List.forall_mem_map.mpr h)

/-! ## Reading parts back -/

/-- A text is read up to the first separator. -/
theorem append_cons_inj {α : Type u} {separator : α} {xs ys rest rest' : List α} (hx : separator ∉ xs)
    (hy : separator ∉ ys) (h : xs ++ separator :: rest = ys ++ separator :: rest') :
    xs = ys ∧ rest = rest' := by
  induction xs generalizing ys with
  | nil =>
    cases ys with
    | nil => exact ⟨rfl, List.tail_eq_of_cons_eq h⟩
    | cons y ys => exact absurd (List.head_eq_of_cons_eq h ▸ List.mem_cons_self) hy
  | cons x xs ih =>
    cases ys with
    | nil => exact absurd (List.head_eq_of_cons_eq h ▸ List.mem_cons_self) hx
    | cons y ys =>
      obtain ⟨rfl, htail⟩ := List.cons.inj h
      obtain ⟨rfl, hrest⟩ := ih (List.not_mem_of_not_mem_cons hx) (List.not_mem_of_not_mem_cons hy) htail
      exact ⟨rfl, hrest⟩

/-- A text is read back from its end down to the last separator. -/
theorem append_cons_inj_last {α : Type u} {separator : α} {xs ys rest rest' : List α}
    (hr : separator ∉ rest) (hr' : separator ∉ rest')
    (h : xs ++ separator :: rest = ys ++ separator :: rest') : xs = ys ∧ rest = rest' := by
  have hreverse := congrArg List.reverse h
  simp only [List.reverse_append, List.reverse_cons, List.append_assoc, List.singleton_append] at hreverse
  obtain ⟨hrest, hfront⟩ := append_cons_inj (mt List.mem_reverse.mp hr) (mt List.mem_reverse.mp hr') hreverse
  exact ⟨List.reverse_injective hfront, List.reverse_injective hrest⟩

/-- Texts that can be read back from a list with commas between them and a bracket behind it. -/
def Listable (items : List String) : Prop := items ≠ [] ∧ ∀ item ∈ items, ',' ∉ item.toList ∧ ')' ∉ item.toList

theorem Listable.not_mem_intercalate {items : List String} (h : Listable items) :
    ')' ∉ (",".intercalate items).toList := by
  have hcomma : ",".toList = [','] := by decide
  have hother : ∀ c ∈ (",".intercalate items).toList, c ≠ ')' := by
    refine forall_mem_intercalate ?_ fun item hitem c hc heq => (h.2 item hitem).2 (heq ▸ hc)
    rw [hcomma]
    exact List.forall_mem_singleton.mpr (by decide)
  exact fun hmem => hother _ hmem rfl

theorem Listable.splitOn_intercalate {items : List String} (h : Listable items) :
    (",".intercalate items).toList.splitOn ',' = items.map String.toList := by
  rw [String.toList_intercalate]
  refine List.splitOn_intercalate ',' ?_ (by simpa only [ne_eq, List.map_eq_nil_iff] using h.1)
  intro piece hpiece
  obtain ⟨item, hitem, rfl⟩ := List.mem_map.mp hpiece
  exact (h.2 item hitem).1

/-- A list is read up to its bracket, and split at its commas. -/
theorem listed_inj {items items' : List String} {rest rest' : List Char} (h : Listable items)
    (h' : Listable items')
    (heq : (",".intercalate items).toList ++ ')' :: rest = (",".intercalate items').toList ++ ')' :: rest') :
    items = items' ∧ rest = rest' := by
  obtain ⟨htext, hrest⟩ := append_cons_inj h.not_mem_intercalate h'.not_mem_intercalate heq
  refine ⟨?_, hrest⟩
  have hpieces : items.map String.toList = items'.map String.toList := by
    rw [← h.splitOn_intercalate, htext, h'.splitOn_intercalate]
  exact List.map_injective_iff.mpr (fun _ _ => String.toList_inj.mp) hpieces

end SchemaScribe.Text
