import Mathlib.Combinatorics.Enumerative.DoubleCounting
import Mathlib.Data.List.Nodup
import SchemaScribe.Proofs.Model.Bounds
import SchemaScribe.Proofs.Text.Content

/-!
# When class names can run out

A table tries one class name after another, with the number of tables as the bound. Earlier entities are in
the way of a name by their class, their module or the module of their input model. Naming keeps letters and
digits (`Text.content`), so an entity is in the way only of names with its own content, with its content and
that of the input suffix behind, or with its content less the suffix (`contents_of_not_disjoined`).

So an entity is in the way of two numbers only if the suffix is digits, with which one number goes on to the
other. As there is one attempt more than the bound, and an entity less, two attempts have to be lost in this
way before none is left. This takes a number with the suffix at its end that is as large as a second pair of
attempts has (`Options.HasRoom`): where the attempts do not reach it, every table gets a class name
(`buildModel_namesEntities`). Where they just reach it, twenty tables can be one too many (`crowd`).
-/

namespace SchemaScribe

open SchemaScribe.Catalog SchemaScribe.Text

/-! ## Contents of names -/

theorem content_applyCase (name : String) (style : CaseStyle) :
    content (applyCase name style).toList = content name.toList := by
  cases style with
  | camel => exact (congrArg content String.toList_ofList).trans (content_camelChars _)
  | pascal => exact (congrArg content String.toList_ofList).trans (content_pascalChars _)
  | snake => exact (congrArg content String.toList_ofList).trans (content_snakeChars _)
  | preserve => rfl

theorem content_toIdentifier {text : String} (h : content text.toList ≠ []) :
    content (toIdentifier text).toList = content text.toList := by
  unfold toIdentifier
  rw [String.toList_ofList]
  exact content_identifierChars h

/-- **A name with letters or digits in it.** -/
structure IsClassName (name : String) : Prop where
  isName : IsName name
  filled : content name.toList ≠ []

theorem toIdentifier_isClassName (text : String) : IsClassName (toIdentifier text) := by
  refine ⟨toIdentifier_isName text, ?_⟩
  unfold toIdentifier
  rw [String.toList_ofList]
  exact content_identifierChars_ne_nil _

theorem content_numbered (candidate : String) (n : Nat) :
    content (numbered candidate n).toList = content candidate.toList ++ Nat.toDigits 10 n := by
  rw [toList_numbered, content_append, content_of_isDigit isDigit_of_mem_digits]

theorem IsClassName.numbered {candidate : String} (h : IsClassName candidate) (n : Nat) :
    IsClassName (numbered candidate n) := by
  refine ⟨h.isName.numbered n, ?_⟩
  rw [content_numbered]
  exact List.append_ne_nil_of_left_ne_nil h.filled _

/-- The letters and digits of the input suffix. -/
def Options.suffix (o : Options) : List Char := content o.inputSuffix.toList

theorem content_fileName {name : String} (h : content name.toList ≠ []) (o : Options) :
    content (fileName name o).toList = content name.toList := by
  unfold fileName
  rw [content_toIdentifier, content_applyCase]
  rwa [content_applyCase]

theorem content_inputFileName {name : String} (h : content name.toList ≠ []) (o : Options) :
    content (inputFileName name o).toList = content name.toList ++ o.suffix := by
  have hname : content (name ++ o.inputSuffix).toList = content name.toList ++ o.suffix := by
    rw [String.toList_append, content_append, Options.suffix]
  have hinput : content (inputName name o).toList = content name.toList ++ o.suffix := by
    unfold inputName
    rw [content_toIdentifier, hname]
    rw [hname]
    exact List.append_ne_nil_of_left_ne_nil h _
  unfold inputFileName
  rw [content_fileName, hinput]
  rw [hinput]
  exact List.append_ne_nil_of_left_ne_nil h _

/-! ## Names in each other's way -/

/-- **How an entity is in the way of a name**: by equal contents, or by contents that the input suffix makes
equal. -/
theorem contents_of_not_disjoined {o : Options} {a g : String} (ha : IsClassName a) (hg : IsClassName g)
    (h : ¬ Disjoined o a g) :
    content a.toList = content g.toList ∨ content a.toList = content g.toList ++ o.suffix ∨
      content g.toList = content a.toList ++ o.suffix := by
  have hfile := content_fileName ha.filled o
  have hfile' := content_fileName hg.filled o
  have hinput := content_inputFileName ha.filled o
  have hinput' := content_inputFileName hg.filled o
  -- a class name is no module, for it has no colon
  have hcolon : ∀ {name module : String}, IsName name → name ≠ "file:" ++ module := by
    rintro _ module hname rfl
    refine hname.not_mem (c := ':') (by decide) (by decide) ?_
    rw [String.toList_append]
    exact List.mem_append_left _ (by decide)
  unfold Disjoined at h
  push Not at h
  obtain ⟨x, hx, hx'⟩ := h
  unfold occupied at hx hx'
  simp only [List.mem_cons, List.not_mem_nil, or_false] at hx hx'
  rcases hx with rfl | rfl | rfl
  · rcases hx' with rfl | hx' | hx'
    · exact .inl rfl
    · exact absurd hx' (hcolon ha.isName)
    · exact absurd hx' (hcolon ha.isName)
  · rcases hx' with hx' | hx' | hx'
    · exact absurd hx'.symm (hcolon hg.isName)
    · rw [(String.append_right_inj "file:").mp hx', hfile'] at hfile
      exact .inl hfile.symm
    · rw [(String.append_right_inj "file:").mp hx', hinput'] at hfile
      exact .inr (.inl hfile.symm)
  · rcases hx' with hx' | hx' | hx'
    · exact absurd hx'.symm (hcolon hg.isName)
    · rw [(String.append_right_inj "file:").mp hx', hfile'] at hinput
      exact .inr (.inr hinput)
    · rw [(String.append_right_inj "file:").mp hx', hinput'] at hinput
      exact .inl (List.append_cancel_right hinput).symm

/-- A text that another becomes with at most two suffixes. -/
def Follows (suffix s t : List Char) : Prop := t = s ∨ t = s ++ suffix ∨ t = s ++ suffix ++ suffix

/-- Of two names that one entity is in the way of, one follows the other. -/
theorem follows_of_not_disjoined {o : Options} {a a' g : String} (ha : IsClassName a)
    (ha' : IsClassName a') (hg : IsClassName g) (h : ¬ Disjoined o a g) (h' : ¬ Disjoined o a' g) :
    Follows o.suffix (content a.toList) (content a'.toList) ∨
      Follows o.suffix (content a'.toList) (content a.toList) := by
  rcases contents_of_not_disjoined ha hg h with heq | heq | heq
  · rcases contents_of_not_disjoined ha' hg h' with heq' | heq' | heq'
    · exact .inl (.inl (heq'.trans heq.symm))
    · exact .inl (.inr (.inl (by rw [heq', heq])))
    · exact .inr (.inr (.inl (by rw [heq, heq'])))
  · rcases contents_of_not_disjoined ha' hg h' with heq' | heq' | heq'
    · exact .inr (.inr (.inl (by rw [heq, heq'])))
    · exact .inl (.inl (by rw [heq, heq']))
    · exact .inr (.inr (.inr (by rw [heq, heq'])))
  · rcases contents_of_not_disjoined ha' hg h' with heq' | heq' | heq'
    · exact .inl (.inr (.inl (by rw [heq', heq])))
    · exact .inl (.inr (.inr (by rw [heq', heq])))
    · exact .inl (.inl (List.append_cancel_right (heq'.symm.trans heq)))

/-! ## Attempts that nothing confuses -/

/-- Distinct names none of which follows another. -/
structure Unconfused (o : Options) (names : List String) : Prop where
  nodup : names.Nodup
  apart : ∀ a ∈ names, ∀ a' ∈ names, a ≠ a' →
    ¬ Follows o.suffix (content a.toList) (content a'.toList)

/-- **A class name is free** if more attempts than entities are in nobody's way together: each entity is in
the way of one of them at most. -/
theorem freeEntityName_isSome {o : Options} {candidate : String} {limit : Nat} {given taken tried : List String}
    (hcandidate : IsClassName candidate) (hgiven : ∀ g ∈ given, IsClassName g)
    (htaken : ∀ x ∈ taken, ∃ g ∈ given, x ∈ occupied o g) (htried : tried ⊆ attempts candidate limit)
    (hunconfused : Unconfused o tried) (hroom : given.length < tried.length) :
    (freeEntityName o candidate taken limit).isSome := by
  have hclass : ∀ a ∈ tried, IsClassName a := by
    intro a ha
    rcases List.mem_cons.mp (htried ha) with rfl | ha
    · exact hcandidate
    · obtain ⟨n, _, rfl⟩ := List.mem_map.mp ha
      exact hcandidate.numbered n
  rw [freeEntityName, firstFree_eq_find?, List.find?_isSome]
  by_contra hnone
  have hblocked : ∀ a ∈ tried.toFinset, ∃ g ∈ given.toFinset, ¬ Disjoined o a g := by
    intro a ha
    have htest : (occupied o a).all (fun x => !taken.contains x) ≠ true := fun hfree =>
      hnone ⟨a, htried (List.mem_toFinset.mp ha), hfree⟩
    simp only [List.all_eq_true, Bool.not_eq_true', List.contains_eq_mem, decide_eq_false_iff_not, ne_eq,
      not_forall, not_not] at htest
    obtain ⟨x, hx, hmem⟩ := htest
    obtain ⟨g, hg, hoccupied⟩ := htaken x hmem
    exact ⟨g, List.mem_toFinset.mpr hg, fun hdisjoined => hdisjoined x hx hoccupied⟩
  have honce : ∀ g ∈ given.toFinset, {a | a ∈ tried.toFinset ∧ ¬ Disjoined o a g}.Subsingleton := by
    rintro g hg a ⟨ha, hblocks⟩ a' ⟨ha', hblocks'⟩
    rw [List.mem_toFinset] at ha ha' hg
    by_contra hne
    rcases follows_of_not_disjoined (hclass a ha) (hclass a' ha') (hgiven g hg) hblocks hblocks' with h | h
    · exact hunconfused.apart a ha a' ha' hne h
    · exact hunconfused.apart a' ha' a ha (Ne.symm hne) h
  have hcard := Finset.card_le_card_of_forall_subsingleton _ hblocked honce
  rw [List.toFinset_card_of_nodup hunconfused.nodup] at hcard
  have hgivenCard := given.toFinset_card_le
  omega

/-! ## Numbers that go on with the suffix -/

/-- The digits of a positive number do not begin with a zero. -/
theorem head?_toDigits_ne {n : Nat} (h : 0 < n) : (Nat.toDigits 10 n).head? ≠ some '0' := by
  induction n using Nat.strongRecOn with
  | ind n ih =>
    rw [Nat.toDigits_eq_if (by decide)]
    split
    · rw [List.head?_cons, ne_eq, Option.some_inj, Nat.digitChar_eq_zero]
      omega
    · next hlarge =>
      rw [List.head?_append_of_ne_nil _ Nat.toDigits_ne_nil]
      exact ih (n / 10) (Nat.div_lt_self h (by decide)) (by omega)

theorem le_ofDigitChars (digits : List Char) (n : Nat) : n ≤ Nat.ofDigitChars 10 digits n := by
  rw [Nat.ofDigitChars_eq_ofDigitChars_zero]
  have hpower : 0 < 10 ^ digits.length := Nat.pow_pos (by decide)
  exact (Nat.le_mul_of_pos_left n hpower).trans (Nat.le_add_right _ _)

theorem ofDigitChars_mono {n n' : Nat} (h : n ≤ n') (digits : List Char) :
    Nat.ofDigitChars 10 digits n ≤ Nat.ofDigitChars 10 digits n' := by
  rw [@Nat.ofDigitChars_eq_ofDigitChars_zero digits n, @Nat.ofDigitChars_eq_ofDigitChars_zero digits n']
  exact Nat.add_le_add_right (Nat.mul_le_mul_left _ h) _

/-- A number whose digits begin with those of another goes on from that number. -/
theorem eq_ofDigitChars {n n' : Nat} {rest : List Char} (h : Nat.toDigits 10 n' = Nat.toDigits 10 n ++ rest) :
    n' = Nat.ofDigitChars 10 rest n := by
  have hvalue : Nat.ofDigitChars 10 (Nat.toDigits 10 n') 0 =
      Nat.ofDigitChars 10 (Nat.toDigits 10 n ++ rest) 0 := by rw [h]
  rwa [Nat.ofDigitChars_append, Nat.ofDigitChars_ten_toDigits, Nat.ofDigitChars_ten_toDigits] at hvalue

/-- The least number that a second pair of attempts can begin with. Where the suffix begins with a zero, no
number is the suffix alone, so the first pair begins with two and the second with three. -/
def Options.secondPair (o : Options) : Nat := if o.suffix.head? = some '0' then 3 else 2

/-- **Room for class names**: the numbers to try do not reach the second one that has a smaller one in front of
the input suffix, if the suffix is digits at all. -/
def Options.HasRoom (o : Options) (tables : Nat) : Prop :=
  o.suffix ≠ [] → (∀ c ∈ o.suffix, c.isDigit = true) →
    tables + 1 < Nat.ofDigitChars 10 o.suffix o.secondPair

instance (o : Options) (tables : Nat) : Decidable (o.HasRoom tables) :=
  let _ : Decidable (∀ c ∈ o.suffix, c.isDigit = true) := List.decidableBAll _ _
  inferInstanceAs (Decidable (_ → _ → _))

/-- The attempts that count: all but the one that the first pair begins with, which is the candidate itself, or
number two where the suffix begins with a zero. -/
def countedAttempts (o : Options) (candidate : String) (limit : Nat) : List String :=
  if o.suffix.head? = some '0' then candidate :: (List.range' 3 (limit - 1)).map (numbered candidate)
  else (List.range' 2 limit).map (numbered candidate)

/-- With room, no number to try goes on to another one with the suffix. -/
theorem Options.HasRoom.toDigits_ne {o : Options} {tables : Nat} (h : o.HasRoom tables)
    (hfilled : o.suffix ≠ []) {n n' : Nat} (hn : o.secondPair ≤ n) (hn' : n' ≤ tables + 1)
    (rest : List Char) : Nat.toDigits 10 n' ≠ Nat.toDigits 10 n ++ (o.suffix ++ rest) := by
  intro heq
  have hdigits : ∀ c ∈ o.suffix, c.isDigit = true := by
    intro c hc
    refine isDigit_of_mem_digits (n := n') c ?_
    rw [heq]
    exact List.mem_append_right _ (List.mem_append_left _ hc)
  have hvalue := eq_ofDigitChars heq
  rw [Nat.ofDigitChars_append] at hvalue
  have hlarge : Nat.ofDigitChars 10 o.suffix o.secondPair ≤ n' :=
    calc Nat.ofDigitChars 10 o.suffix o.secondPair
        ≤ Nat.ofDigitChars 10 o.suffix n := ofDigitChars_mono hn _
      _ ≤ Nat.ofDigitChars 10 rest (Nat.ofDigitChars 10 o.suffix n) := le_ofDigitChars _ _
      _ = n' := hvalue.symm
  have hroom := h hfilled hdigits
  omega

/-- With room, no number to try follows another. -/
theorem Options.HasRoom.not_follows {o : Options} {tables : Nat} (h : o.HasRoom tables) {n n' : Nat}
    (hne : n ≠ n') (hn : o.secondPair ≤ n) (hn' : n' ≤ tables + 1) (candidate : String) :
    ¬ Follows o.suffix (content (numbered candidate n).toList) (content (numbered candidate n').toList) := by
  have hdiffer : Nat.toDigits 10 n' ≠ Nat.toDigits 10 n := by
    intro heq
    have hsame : Nat.toDigits 10 n' = Nat.toDigits 10 n ++ [] := by rw [heq, List.append_nil]
    exact hne (eq_ofDigitChars hsame).symm
  rw [content_numbered, content_numbered, Follows, List.append_assoc, List.append_assoc, List.append_assoc]
  simp only [List.append_cancel_left_eq]
  by_cases hfilled : o.suffix = []
  · simp only [hfilled, List.append_nil, or_self]
    exact hdiffer
  · have hnext := h.toDigits_ne hfilled hn hn'
    rintro (heq | heq | heq)
    · exact hdiffer heq
    · exact hnext [] (by rwa [List.append_nil])
    · exact hnext o.suffix heq

/-- A candidate and its numbers do not follow one another where the suffix begins with a zero. -/
theorem not_follows_candidate {o : Options} (hzero : o.suffix.head? = some '0') {n : Nat} (hn : 0 < n)
    (candidate : String) :
    ¬ Follows o.suffix (content candidate.toList) (content (numbered candidate n).toList) ∧
      ¬ Follows o.suffix (content (numbered candidate n).toList) (content candidate.toList) := by
  have hdigits : Nat.toDigits 10 n ≠ [] := Nat.toDigits_ne_nil
  have hnumber : ∀ rest, Nat.toDigits 10 n ≠ o.suffix ++ rest := by
    intro rest heq
    refine head?_toDigits_ne hn ?_
    rw [heq, List.head?_append, hzero, Option.some_or]
  rw [content_numbered, Follows, Follows]
  simp only [List.append_assoc]
  constructor
  · rintro (heq | heq | heq)
    · exact hdigits (List.append_right_eq_self.mp heq)
    · exact hnumber [] (by rw [List.append_nil]; exact List.append_cancel_left heq)
    · exact hnumber o.suffix (List.append_cancel_left heq)
  · rintro (heq | heq | heq)
    · exact hdigits (List.append_right_eq_self.mp heq.symm)
    all_goals exact hdigits (List.append_eq_nil_iff.mp (List.append_right_eq_self.mp heq.symm)).1

theorem countedAttempts_subset (o : Options) (candidate : String) (limit : Nat) :
    countedAttempts o candidate limit ⊆ attempts candidate limit := by
  unfold countedAttempts attempts
  split
  · refine List.cons_subset_cons candidate (List.map_subset _ fun n hn => ?_)
    rw [List.mem_range'_1] at hn ⊢
    omega
  · exact List.subset_cons_self _ _

theorem length_countedAttempts (o : Options) (candidate : String) {limit : Nat} (h : 0 < limit) :
    (countedAttempts o candidate limit).length = limit := by
  unfold countedAttempts
  split
  · rw [List.length_cons, List.length_map, List.length_range']
    omega
  · rw [List.length_map, List.length_range']

/-- **With room, as many attempts as there are tables are not confused.** -/
theorem Options.HasRoom.unconfused {o : Options} {limit : Nat} (h : o.HasRoom limit) (hlimit : 0 < limit)
    (candidate : String) : Unconfused o (countedAttempts o candidate limit) := by
  have hnumbers : ∀ start count, o.secondPair ≤ start → start + count ≤ limit + 2 →
      Unconfused o ((List.range' start count).map (numbered candidate)) := by
    intro start count hstart hcount
    have hnodup : (List.range' start count).Nodup := List.nodup_range'
    refine ⟨hnodup.map (numbered_injective candidate), ?_⟩
    intro a ha a' ha' hne
    obtain ⟨n, hn, rfl⟩ := List.mem_map.mp ha
    obtain ⟨n', hn', rfl⟩ := List.mem_map.mp ha'
    rw [List.mem_range'_1] at hn hn'
    have hdiffer : n ≠ n' := fun heq => hne (heq ▸ rfl)
    exact h.not_follows hdiffer (by omega) (by omega) candidate
  unfold Options.secondPair at hnumbers
  unfold countedAttempts
  split
  · next hzero =>
    rw [if_pos hzero] at hnumbers
    have hrest := hnumbers 3 (limit - 1) (by decide) (by omega)
    have hcandidate : ∀ a ∈ (List.range' 3 (limit - 1)).map (numbered candidate),
        ¬ Follows o.suffix (content candidate.toList) (content a.toList) ∧
          ¬ Follows o.suffix (content a.toList) (content candidate.toList) := by
      intro a ha
      obtain ⟨n, hn, rfl⟩ := List.mem_map.mp ha
      rw [List.mem_range'_1] at hn
      exact not_follows_candidate hzero (by omega) candidate
    refine ⟨List.nodup_cons.mpr ⟨fun hmem => (hcandidate _ hmem).1 (.inl rfl), hrest.nodup⟩, ?_⟩
    intro a ha a' ha' hne
    rcases List.mem_cons.mp ha with rfl | ha
    · rcases List.mem_cons.mp ha' with rfl | ha'
      · exact absurd rfl hne
      · exact (hcandidate a' ha').1
    · rcases List.mem_cons.mp ha' with rfl | ha'
      · exact (hcandidate a ha).2
      · exact hrest.apart a ha a' ha' hne
  · next hother =>
    rw [if_neg hother] at hnumbers
    exact hnumbers 2 limit (by decide) (by omega)

/-! ## Naming all tables -/

/-- **Tables are named** as long as no more entities are given names than the bound leaves room for. -/
theorem exists_nameTables {o : Options} {limit : Nat} (h : o.HasRoom limit) (tables : List Table)
    (taken : List String) (named : List NamedTable) (given : List String) (hgiven : ∀ g ∈ given, IsClassName g)
    (htaken : ∀ x ∈ taken, ∃ g ∈ given, x ∈ occupied o g) (hroom : given.length + tables.length ≤ limit) :
    ∃ named', (nameTables o limit taken named tables).outcome = .ok named' := by
  induction tables generalizing taken named given with
  | nil => exact ⟨named, rfl⟩
  | cons t rest ih =>
    rw [List.length_cons] at hroom
    have hlimit : 0 < limit := by omega
    have hcandidate : IsClassName (entityName t.name o) := toIdentifier_isClassName _
    have hfree := freeEntityName_isSome hcandidate hgiven htaken (countedAttempts_subset o _ limit)
      (h.unconfused hlimit _) (by rw [length_countedAttempts o _ hlimit]; omega)
    obtain ⟨name, hname⟩ := Option.isSome_iff_exists.mp hfree
    have hclass : IsClassName name := by
      rcases (firstFree_eq_some hname).2 with rfl | ⟨n, rfl⟩
      · exact hcandidate
      · exact hcandidate.numbered n
    have htaken' : ∀ x ∈ taken ++ occupied o name, ∃ g ∈ given ++ [name], x ∈ occupied o g := by
      intro x hx
      rcases List.mem_append.mp hx with hx | hx
      · obtain ⟨g, hg, hoccupied⟩ := htaken x hx
        exact ⟨g, List.mem_append_left _ hg, hoccupied⟩
      · exact ⟨name, List.mem_append_right _ (List.mem_singleton_self name), hx⟩
    have hroom' : (given ++ [name]).length + rest.length ≤ limit := by
      rw [List.length_append, List.length_singleton]
      omega
    obtain ⟨named', hnamed⟩ := ih _ (putNamed ⟨t, name⟩ named) (given ++ [name])
      (List.forall_mem_append.mpr ⟨hgiven, List.forall_mem_singleton.mpr hclass⟩) htaken' hroom'
    exact ⟨named', nameTables_cons_eq_ok.mpr ⟨name, hname, hnamed⟩⟩

/-! ## The law -/

/-- **Class names do not run out where there is room for them**: every table that becomes an entity is named
within the bound, so that no two entities have a class name or a module in common, and no model fails to be
built for want of a class name. -/
theorem buildModel_namesEntities {o : Options} {s : Snapshot} (h : o.HasRoom s.tables.length) :
    (∃ named, (nameTables o s.tables.length [] [] (entityTables s)).outcome = .ok named ∧
      named.Pairwise fun t u => Disjoined o t.entity u.entity) ∧
    ∀ table, buildModel o s ≠ .error (.noEntityName table) := by
  have hroom : ([] : List String).length + (entityTables s).length ≤ s.tables.length := by
    rw [List.length_nil, Nat.zero_add]
    exact List.length_filter_le _ _
  obtain ⟨named, hnamed⟩ := exists_nameTables h (entityTables s) [] [] [] (List.forall_mem_nil _)
    (List.forall_mem_nil _) hroom
  obtain ⟨_, housed⟩ := nameTables_housed (Housed.nil o []) hnamed
  refine ⟨⟨named, hnamed, housed.disjoined⟩, fun table hfail => ?_⟩
  refine buildModel_failsWith (p := (· ≠ .noEntityName table)) ?_ (fun _ => nofun) (fun _ => nofun)
    (fun _ => nofun) _ hfail rfl
  exact .of_exists ⟨named, hnamed⟩

/-- So do those of a crowd that is not too large. -/
theorem buildModel_namesEntities_smallCrowd :
    Options.HasRoom { inputSuffix := "1" } smallCrowd.tables.length ∧
    (∃ named, (nameTables { inputSuffix := "1" } smallCrowd.tables.length [] []
        (entityTables smallCrowd)).outcome = .ok named ∧
      named.Pairwise fun t u => Disjoined { inputSuffix := "1" } t.entity u.entity) ∧
    ∀ table, buildModel { inputSuffix := "1" } smallCrowd ≠ .error (.noEntityName table) := by
  have hroom : Options.HasRoom { inputSuffix := "1" } smallCrowd.tables.length := by decide +kernel
  exact ⟨hroom, buildModel_namesEntities hroom⟩

/-- Not every checked catalog has room. -/
theorem not_namesEntities_crowd :
    ¬ ∀ (p : Option Options) (o : Options) (s s' : Snapshot), (s.prepare p).outcome = .ok s' →
      ∀ table, buildModel o s' ≠ .error (.noEntityName table) := by
  intro h
  have hprepared : (crowd.prepare (some { inputSuffix := "1" })).outcome.toOption = some crowd := by
    decide +kernel
  have hfails : buildModel { inputSuffix := "1" } crowd = .error (.noEntityName "c") := by
    decide +kernel
  exact h _ _ crowd crowd (toOption_eq_some.mp hprepared) "c" hfails

end SchemaScribe
