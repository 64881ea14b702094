import SchemaScribe.Text.Surrogate

/-!
# Texts that bytes encode

A text is encoded if and only if none of its characters stands for a lone surrogate
(`encode_eq_ok_iff`). So it depends on the characters of a text alone whether it has bytes, and a text that is
put together from encodable ones is encodable.
-/

namespace SchemaScribe.Text.StandIns

variable {standIns : StandIns} {s : String}

/-- **A text without lone surrogates.** -/
def Encodable (standIns : StandIns) (s : String) : Prop := ∀ c ∈ s.toList, standIns.surrogate? c = none

instance (standIns : StandIns) (s : String) : Decidable (standIns.Encodable s) :=
  List.decidableBAll (fun c => standIns.surrogate? c = none) s.toList

/-- Where nothing stands for a lone surrogate, every text is encodable. -/
theorem encodable_nil (s : String) : Encodable [] s := fun _ _ => rfl

/-- A character in front of the surrogates stands for none. -/
theorem surrogate?_eq_none_of_lt {c : Char} (h : c.toNat < 0xe000) : standIns.surrogate? c = none := by
  unfold surrogate?
  rw [Option.map_eq_none_iff, List.find?_eq_none]
  intro standIn _ hsame
  have hbehind := standIn.behind
  rw [of_decide_eq_true hsame] at hbehind
  omega

theorem firstLone_eq_none_iff (position : Nat) {chars : List Char} :
    standIns.firstLone position chars = none ↔ ∀ c ∈ chars, standIns.surrogate? c = none := by
  induction chars generalizing position with
  | nil => exact iff_of_true rfl (List.forall_mem_nil _)
  | cons c rest ih =>
    rw [firstLone, List.forall_mem_cons]
    cases hc : standIns.surrogate? c with
    | some half => exact iff_of_false nofun fun h => nomatch h.1
    | none => exact (ih _).trans (and_iff_right rfl).symm

/-- **A text has bytes if and only if it is encodable**, and these are its bytes then. Which lone surrogates a
text without bytes is refused for is told by `firstLone`. -/
theorem encode_eq_ok_iff {bytes : ByteArray} :
    standIns.encode s = .ok bytes ↔ standIns.Encodable s ∧ bytes = s.toUTF8 := by
  unfold encode
  split
  · next hnone =>
    rw [List.isEmpty_iff.mp hnone, and_iff_right (encodable_nil s)]
    exact ⟨fun h => (Except.ok.inj h).symm, fun h => congrArg _ h.symm⟩
  · unfold Encodable
    rw [← firstLone_eq_none_iff 0]
    cases standIns.firstLone 0 s.toList with
    | some fault => exact iff_of_false nofun fun h => nomatch h.1
    | none => exact ⟨fun h => ⟨rfl, (Except.ok.inj h).symm⟩, fun h => congrArg _ h.2.symm⟩

theorem Encodable.encode (h : standIns.Encodable s) : standIns.encode s = .ok s.toUTF8 :=
  encode_eq_ok_iff.mpr ⟨h, rfl⟩

@[simp] theorem encode_nil (s : String) : StandIns.encode [] s = .ok s.toUTF8 := (encodable_nil s).encode

theorem Encodable.encode_ne_error (h : standIns.Encodable s) {fault : EncodeFault} :
    standIns.encode s ≠ .error fault := by
  rw [h.encode]
  exact nofun

theorem exists_encode_eq_error (h : ¬ standIns.Encodable s) : ∃ fault, standIns.encode s = .error fault := by
  cases hencode : standIns.encode s with
  | error fault => exact ⟨fault, rfl⟩
  | ok bytes => exact absurd (encode_eq_ok_iff.mp hencode).1 h

end SchemaScribe.Text.StandIns
