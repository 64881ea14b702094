import SchemaScribe.Connection.Descriptor
import SchemaScribe.Proofs.Document.Settings

/-!
# Descriptors are read back

The settings of a descriptor leave out what is not given, and reading puts the default there, so a descriptor is
read back from its settings (`reader_settings`). The numbers must be in range; those of every descriptor that was
read are (`inRange_of_reader`).
-/

namespace SchemaScribe

open SchemaScribe.Document

/-! ## Descriptors -/

namespace Connection.Descriptor

/-- **A descriptor whose numbers are in range.** -/
structure InRange (d : Descriptor) : Prop where
  port : ∀ n ∈ d.port, 1 ≤ n ∧ n ≤ 65535
  timeout : 1 ≤ d.timeout ∧ d.timeout ≤ 600

variable {d : Descriptor}

theorem settings_mem_fields : ∀ s ∈ d.settings, s.1 ∈ fields := by
  intro s hs
  simp only [settings, List.mem_append, List.mem_map, List.mem_singleton] at hs
  rcases hs with ((((((((rfl | ⟨_, _, rfl⟩) | ⟨_, _, rfl⟩) | ⟨_, _, rfl⟩) | ⟨_, _, rfl⟩) | ⟨_, _, rfl⟩) |
    ⟨_, _, rfl⟩) | ⟨_, _, rfl⟩) | ⟨_, _, rfl⟩) | rfl
  all_goals simp [fields]

theorem choice_engine (e : Engine) : Read.choice Engine.choices (.text e.name) = .ok e := by
  cases e <;> rfl

/-- The settings by name. -/
theorem entryAt?_settings (d : Descriptor) :
    entryAt? "engine" d.settings = some (.text d.engine.name) ∧
    entryAt? "driver" d.settings = d.driver.map .text ∧ entryAt? "host" d.settings = d.host.map .text ∧
    entryAt? "port" d.settings = d.port.map (fun n : Nat => .int n) ∧
    entryAt? "username" d.settings = d.user.map .text ∧ entryAt? "password" d.settings = d.password.map .text ∧
    entryAt? "database" d.settings = d.database.map .text ∧
    entryAt? "schema_name" d.settings = d.schema.map .text ∧ entryAt? "url" d.settings = d.url.map .text ∧
    entryAt? "connect_timeout" d.settings = some (.int d.timeout) := by
  simp only [settings, entryAt?_append, entryAt?_singleton, entryAt?_optional]
  simp

/-- **A descriptor is read back from its settings**, field by field, as long as its numbers are in the range
that reading accepts. -/
theorem reader_settings (h : d.InRange) : reader (.map (settingsEntries d.settings)) = .ok d := by
  obtain ⟨hengine, hdriver, hhost, hport, huser, hpassword, hdatabase, hschema, hurl, htimeout⟩ :=
    entryAt?_settings d
  have htext : ∀ {name : String} {part : Option String}, entryAt? name d.settings = part.map .text →
      Read.fieldOr name none (Read.optional Read.text) (.map (settingsEntries d.settings)) = .ok part :=
    fun hpart => fieldOr_settings (g := id) hpart fun _ _ => rfl
  have hengine : Read.fieldOr "engine" .postgresql (Read.choice Engine.choices)
      (.map (settingsEntries d.settings)) = .ok d.engine := by
    have hpart : entryAt? "engine" d.settings = (some d.engine).map (fun e : Engine => .text e.name) := hengine
    refine fieldOr_settings (g := (·.getD .postgresql)) hpart ?_
    rintro _ ⟨⟩
    exact choice_engine d.engine
  have hport : Read.fieldOr "port" none (Read.optional (Read.boundedInteger 1 (some 65535)))
      (.map (settingsEntries d.settings)) = .ok d.port := by
    refine fieldOr_settings (g := id) hport fun n hn => ?_
    show (Read.boundedInteger 1 (some 65535) (.int n)).map some = _
    rw [boundedInteger_int (h.port n hn)]
    rfl
  have htimeout : Read.fieldOr "connect_timeout" 10 (Read.boundedInteger 1 (some 600))
      (.map (settingsEntries d.settings)) = .ok d.timeout := by
    have hpart : entryAt? "connect_timeout" d.settings = (some d.timeout).map (fun n : Nat => .int n) := htimeout
    refine fieldOr_settings (g := (·.getD 10)) hpart ?_
    rintro _ ⟨⟩
    exact boundedInteger_int h.timeout
  unfold reader
  rw [record_settingsEntries settings_mem_fields, hengine, hport, htimeout, htext hdriver, htext hhost, htext huser,
    htext hpassword, htext hdatabase, htext hschema, htext hurl]
  exact dif_pos d.has_target

/-- **The numbers of every descriptor that was read are in range.** -/
theorem inRange_of_reader {value : Value} (h : reader value = .ok d) : d.InRange := by
  obtain ⟨made, hrecord, hmade⟩ := Checked.exists_of_andThen h
  -- the fields from the last one back
  obtain ⟨_, timeout, h₉, htimeout, rfl⟩ := Checked.seq_eq_ok (body_of_record hrecord)
  obtain ⟨_, url, h₈, _, rfl⟩ := Checked.seq_eq_ok h₉
  obtain ⟨_, schema, h₇, _, rfl⟩ := Checked.seq_eq_ok h₈
  obtain ⟨_, database, h₆, _, rfl⟩ := Checked.seq_eq_ok h₇
  obtain ⟨_, password, h₅, _, rfl⟩ := Checked.seq_eq_ok h₆
  obtain ⟨_, user, h₄, _, rfl⟩ := Checked.seq_eq_ok h₅
  obtain ⟨_, port, h₃, hport, rfl⟩ := Checked.seq_eq_ok h₄
  obtain ⟨_, host, h₂, _, rfl⟩ := Checked.seq_eq_ok h₃
  obtain ⟨_, driver, h₁, _, rfl⟩ := Checked.seq_eq_ok h₂
  obtain ⟨engine, _, rfl⟩ := Checked.map_eq_ok h₁
  change make engine driver host port user password database schema url timeout = .ok d at hmade
  unfold make at hmade
  split at hmade
  · cases hmade
    refine ⟨?_, ?_⟩
    · rintro n ⟨⟩
      rcases fieldOr_eq_ok hport with hdefault | ⟨part, hread⟩
      · cases hdefault
      · obtain ⟨found, hfound⟩ := optional_eq_ok hread
        exact boundedInteger_eq_ok hfound
    · rcases fieldOr_eq_ok htimeout with rfl | ⟨part, hread⟩
      · show 1 ≤ 10 ∧ 10 ≤ 600
        decide
      · exact boundedInteger_eq_ok hread
  · cases hmade

end Connection.Descriptor

end SchemaScribe
