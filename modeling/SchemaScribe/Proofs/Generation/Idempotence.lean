import SchemaScribe.Proofs.Generation.Run
import SchemaScribe.Proofs.Output.Merging

/-!
# Running again changes nothing

A successful run into an empty directory stores every file of its package, and a second run finds them there
and succeeds too. Whether it writes a file again is decided between the text it would write and the text that is
read, in which every carriage return has become a line feed. So a file is left alone if it has no carriage
returns; those of a table name or table comment are the only ones that a file can have, besides those of the
style pass (`regeneration_unchanged`).
-/

namespace SchemaScribe.Generation

open SchemaScribe.Catalog SchemaScribe.Files SchemaScribe.Output SchemaScribe.Text
open SchemaScribe.Render (GeneratedFile)

/-- **What can be encoded can be encoded again**: what is made of a file and of its stored text has no characters
but those of the text and line feeds. -/
theorem encodable_finalText_again {style : StylePass} {w : WriteSettings} {f : GeneratedFile}
    (h : f.standIns.Encodable (plainText style w f)) :
    f.standIns.Encodable (finalText style w f (some (FileTree.asRead (plainText style w f)))).text := by
  have hfeed : f.standIns.surrogate? '\n' = none := StandIns.surrogate?_eq_none_of_lt (by decide)
  intro c hc
  rw [finalText_text] at hc
  rcases mem_mergeRegions hc with rfl | hc | hc
  · exact hfeed
  · exact h c hc
  · rw [FileTree.toList_asRead] at hc
    rcases mem_unifyNewlines hc with rfl | hc
    · exact hfeed
    · exact h c hc

/-- **A style pass that brings no carriage returns.** -/
def BringsNoReturns (style : StylePass) : Prop :=
  ∀ (lineLength : Nat) (text out : String), style lineLength text = .ok out → '\r' ∉ text.toList →
    '\r' ∉ out.toList

/-- **Regeneration is idempotent.** After a successful run into an empty directory a second run succeeds and
records the same files. Those that quote no carriage returns are unchanged, and if none does, the second run
leaves the tree as it was. -/
theorem regeneration_unchanged {style : StylePass} {o : Options} {s : Snapshot} {t t₁ : FileTree}
    {report₁ : Report} (h : (generateSnapshot { style } o t s).outcome = .ok (t₁, report₁))
    (hsuccess : report₁.success = true)
    (hempty : ∀ directory, t.resolve (.ofString o.outputDir) = .ok directory → t.Vacant directory) :
    ∃ t₂ report₂, (generateSnapshot { style } o t₁ s).outcome = .ok (t₂, report₂) ∧
      report₂.success = true ∧
      report₂.records.map (·.relative) = report₁.records.map (·.relative) ∧
      (BringsNoReturns style →
        List.Forall₂ (fun first second => Clear (fun text => '\r' ∉ text) o s first.relative →
          second = { first with status := .unchanged }) report₁.records report₂.records ∧
        ((∀ path, Clear (fun text => '\r' ∉ text) o s path) → t₂ = t₁)) := by
  obtain ⟨hhome, w, s', m, hw, hs, hm, hfaults, hrecords, hstored⟩ := stored_of_success h hsuccess hempty
  have hw₁ : Setup.writing { style } o t₁ = .ok w := by rw [writing_of_home hhome, hw]
  obtain ⟨t₂, report₂, hrun, hsuccess₂, hrecords₂, hsame⟩ := exists_run_of_stored hw₁ hs hm
    (fun f hf => encodable_finalText_again (hstored f hf).1) fun f hf => (hstored f hf).2
  refine ⟨t₂, report₂, hrun, hsuccess₂.trans hfaults, ?_, fun hstyle => ⟨?_, fun hclear => hsame ?_⟩⟩
  · rw [hrecords, hrecords₂, List.map_map, List.map_map]
    exact List.map_congr_left fun f _ => by simp
  · have hdry : w.dryRun = false := (writing_eq_ok hw).2.2
    rw [hrecords, hrecords₂, List.forall₂_map_left_iff, List.forall₂_map_right_iff, List.forall₂_same]
    intro f hf hclear
    refine againRecord_plainText hdry (plainText_noReturn hstyle w ?_)
    exact Render.noReturn_of_quoting (entities_writable hs hm) hf (hclear s' m hs hm)
  · intro f hf
    refine finalText_again (plainText_noReturn hstyle w ?_)
    exact Render.noReturn_of_quoting (entities_writable hs hm) hf (hclear f.path s' m hs hm)

/-- The second run on the staff leaves all files as they are. -/
theorem regeneration_unchanged_staff :
    ∃ t report, (generateSnapshot {} {} {} staff).outcome = .ok (t, report) ∧ report.success = true ∧
      ∃ report₂, (generateSnapshot {} {} t staff).outcome = .ok (t, report₂) ∧ report₂.success = true ∧
        report₂.records = report.records.map ({ · with status := .unchanged }) := by
  obtain ⟨t, report, hrun, hsuccess, _⟩ := exists_staffRun
  have hempty : ∀ directory : Path, FileTree.Vacant {} directory := fun _ => List.forall_mem_nil _
  have hstyle : BringsNoReturns fun _ text => .ok text := by
    rintro _ text _ ⟨⟩ h
    exact h
  have hclear : ∀ path, Clear (fun text => '\r' ∉ text) {} staff path := clear_of_all (by decide +kernel)
  obtain ⟨t₂, report₂, hrun₂, hsuccess₂, _, hsame⟩ :=
    regeneration_unchanged hrun hsuccess fun directory _ => hempty directory
  obtain ⟨hrecords, htree⟩ := hsame hstyle
  obtain rfl := htree hclear
  refine ⟨_, report, hrun, hsuccess, report₂, hrun₂, hsuccess₂, ?_⟩
  have hmarked : List.Forall₂ (· = ·) (report.records.map ({ · with status := .unchanged }))
      report₂.records :=
    List.forall₂_map_left_iff.mpr (hrecords.imp fun first _ h => (h (hclear first.relative)).symm)
  rw [List.forall₂_eq_eq_eq] at hmarked
  exact hmarked.symm

end SchemaScribe.Generation
