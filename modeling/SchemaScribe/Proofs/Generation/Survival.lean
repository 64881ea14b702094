import SchemaScribe.Proofs.Generation.Run

/-!
# User code survives regeneration

A run leaves a module with one custom region, in which somebody writes code. However the catalog changes
until the next run that writes the module, the region then holds this code and nothing else does
(`customRegion_survives`). This rests on the text that is written before merging: lines of which none opens a
region, with an empty region at their end. A table comment or table name that opens a region itself breaks it, for
regions are told apart by their order only; such texts are ruled out (`Clear`).
-/

namespace SchemaScribe.Generation

open SchemaScribe.Catalog SchemaScribe.Files SchemaScribe.Output SchemaScribe.Text
open SchemaScribe.Render (GeneratedFile IsModule Quoting)

/-- **A style pass that keeps the text and appends to it**, if it does not fail, something that opens no
region. -/
def Appends (style : StylePass) : Prop :=
  ∀ (lineLength : Nat) (text out : String), style lineLength text = .ok out →
    ∃ tail : String, out = text ++ tail ∧ Unopened tail.toList

/-- **A run that writes a file**: it comes to its end, and it records the file. -/
def Generates (style : StylePass) (o : Options) (s : Snapshot) (path : String) (t t' : FileTree) : Prop :=
  ∃ report, (generateSnapshot { style } o t s).outcome = .ok (t', report) ∧
    ∃ record ∈ report.records, record.relative = path

/-- The text of a generated file as it is read. -/
def generatedText? (o : Options) (t : FileTree) (path : String) : Option String := do
  let directory ← (t.resolve (.ofString o.outputDir)).toOption
  (t.readText? (directory.join (.ofString path))).toOption.join

theorem generatedText?_eq_some {o : Options} {t : FileTree} {path text : String} :
    generatedText? o t path = some text ↔ ∃ directory, t.resolve (.ofString o.outputDir) = .ok directory ∧
      t.readText? (directory.join (.ofString path)) = .ok (some text) := by
  unfold generatedText?
  constructor
  · intro h
    obtain ⟨directory, hdirectory, hread⟩ := Option.bind_eq_some_iff.mp h
    rw [Option.join_eq_some_iff] at hread
    exact ⟨directory, toOption_eq_some.mp hdirectory, toOption_eq_some.mp hread⟩
  · rintro ⟨directory, hdirectory, hread⟩
    refine Option.bind_eq_some_iff.mpr ⟨directory, toOption_eq_some.mpr hdirectory, ?_⟩
    rw [hread]
    rfl

/-- The text of a fresh file has one region before it is merged, and this region is empty. -/
theorem exists_surround {style : StylePass} (hstyle : Appends style) (w : WriteSettings) {f : GeneratedFile}
    (h : Fresh f.content.toList) : ∃ a : Surround, (plainText style w f).toList = a.text [] := by
  have hcanonical : Fresh (canonical f.content).toList := by
    rw [toList_canonical]
    exact h.canonical
  have hnil : Unopened [] := by decide
  rcases plainText_eq style w f with hplain | hstyled
  · obtain ⟨a, ha⟩ := hcanonical.exists_surround hnil
    rw [List.append_nil] at ha
    exact ⟨a, hplain ▸ ha⟩
  · obtain ⟨tail, htail, hunopened⟩ := hstyle _ _ _ hstyled
    have htwice : Fresh (canonical (canonical f.content)).toList := by
      rw [toList_canonical]
      exact hcanonical.canonical
    obtain ⟨a, ha⟩ := htwice.exists_surround hunopened
    refine ⟨a, ?_⟩
    rw [htail, String.toList_append]
    exact ha

/-- **What a run makes of a module**: a text with one empty region, merged with what was there before. -/
theorem Generates.exists_surround {style : StylePass} {o : Options} {s : Snapshot} {path : String}
    {t t' : FileTree} (h : Generates style o s path t t') (hstyle : Appends style) (hmodule : IsModule path)
    (hclear : Clear Unopened o s path) :
    t'.home = t.home ∧ ∃ (a : Surround) (new : String) (old : Option String), new.toList = a.text [] ∧
      (∀ text ∈ old, '\r' ∉ text.toList) ∧
      (∀ text, generatedText? o t path = some text → old = some text) ∧
      generatedText? o t' path = some (FileTree.asRead (mergeRegions new old)) := by
  obtain ⟨report, hrun, record, hrecord, rfl⟩ := h
  obtain ⟨w, s', m, written, hw, hs, hm, hwrite, rfl⟩ := generateSnapshot_eq_ok_iff.mp hrun
  obtain ⟨hdirectory, habsolute, hdry⟩ := writing_eq_ok hw
  obtain ⟨hplaced, _⟩ := package_placed o hm habsolute
  obtain ⟨f, hf, hpath, old, hold, hread, hfinal⟩ :=
    writeFrom_record hdry hplaced hwrite hrecord List.not_mem_nil
  have hhome : t'.home = t.home := by
    have hkept := writeAll_home style w t (Render.renderPackage m (Render.entityFiles m o)).files
    rw [hwrite] at hkept
    exact hkept
  have hfresh : Fresh f.content.toList := by
    refine Render.fresh_of_quoting (entities_writable hs hm) hf ?_ ?_
    · rw [← hpath]
      exact hmodule
    · rw [← hpath]
      exact hclear s' m hs hm
  obtain ⟨a, ha⟩ := Generation.exists_surround hstyle w hfresh
  refine ⟨hhome, a, plainText style w f, old, ha, hold, fun text htext => ?_, ?_⟩
  · obtain ⟨directory, hsame, htext⟩ := generatedText?_eq_some.mp htext
    rw [hdirectory] at hsame
    cases hsame
    rw [hpath] at htext
    exact hread text htext
  · refine generatedText?_eq_some.mpr ⟨w.directory, ?_, ?_⟩
    · rw [resolve_of_home hhome, hdirectory]
    · rw [hpath]
      exact hfinal

/-- **User code survives regeneration.** A run leaves a module with one custom region. If a body is put into this
region, and a later run on any catalog writes the module again, then the module has this body in its
custom region and no other region. Neither catalog may quote text in the module that opens a region itself. -/
theorem customRegion_survives {style₁ style₂ : StylePass} (hstyle₁ : Appends style₁)
    (hstyle₂ : Appends style₂) {o₁ o₂ : Options} (hdirectory : o₁.outputDir = o₂.outputDir)
    {s₁ s₂ : Snapshot} {path : String} (hmodule : IsModule path) (hclear₁ : Clear Unopened o₁ s₁ path)
    (hclear₂ : Clear Unopened o₂ s₂ path) {t t₁ : FileTree} (h : Generates style₁ o₁ s₁ path t t₁) :
    ∃ before, generatedText? o₁ t₁ path = some before ∧ (customRegions before).length = 1 ∧
      ∀ (body : List (List Char)) (after : String) (u t₂ : FileTree), Inside body →
        allBlank (bodyText body) = false → Edits before body after → u.home = t₁.home →
        generatedText? o₁ u path = some after → Generates style₂ o₂ s₂ path u t₂ →
        ∃ final, generatedText? o₂ t₂ path = some final ∧
          customRegions final = [.ofList (bodyText body)] := by
  obtain ⟨_, a, new, old, hnew, hold, _, hread⟩ := h.exists_surround hstyle₁ hmodule hclear₁
  -- what the first run left has one region, whatever was there before
  obtain ⟨body₁, hinside₁, hmerged⟩ := a.exists_mergeRegions hnew hold
  obtain ⟨a₁, ha₁⟩ := a.exists_read hinside₁
  have hbefore : (FileTree.asRead (mergeRegions new old)).toList = a₁.text body₁ := by
    rw [FileTree.toList_asRead, hmerged, ha₁]
  refine ⟨_, hread, ?_, ?_⟩
  · unfold customRegions
    rw [hbefore, a₁.bodies_text hinside₁]
    rfl
  · intro body after u t₂ hinside hvisible hedits hhome hafter hagain
    have hedited := a₁.text_of_edits hinside₁ hbefore hedits
    obtain ⟨_, a₂, new₂, old₂, hnew₂, _, hold₂, hread₂⟩ :=
      hagain.exists_surround hstyle₂ hmodule hclear₂
    have hsame : generatedText? o₂ u path = some after := by
      unfold generatedText? at hafter ⊢
      rw [← hdirectory]
      exact hafter
    rw [hold₂ after hsame] at hread₂
    -- the second run carries the one body over
    have hcarried : (mergeRegions new₂ (some after)).toList = a₂.text body := by
      rw [a₂.mergeRegions_text (List.forall_mem_nil _) hnew₂, hedited, a₁.bodies_text hinside]
      rw [if_neg (by simp [hvisible]), List.headD_cons]
    obtain ⟨a₃, ha₃⟩ := a₂.exists_read hinside
    refine ⟨_, hread₂, ?_⟩
    unfold customRegions
    rw [FileTree.toList_asRead, hcarried, ha₃, a₃.bodies_text hinside]
    rfl

/-- What somebody notes about persons outlasts the next run. -/
theorem customRegion_survives_staff :
    let path := "entities/person.py"
    let body := ["    NOTE = 'late'".toList]
    ∃ t₁ u t₂ before after final, Generates (fun _ text => .ok text) {} staff path {} t₁ ∧
      generatedText? {} t₁ path = some before ∧ Edits before body after ∧
      generatedText? {} u path = some after ∧
      Generates (fun _ text => .ok text) {} staff path u t₂ ∧
      generatedText? {} t₂ path = some final ∧ customRegions final = [.ofList (bodyText body)] := by
  intro path body
  have hstyle : Appends fun _ text => .ok text := by
    rintro _ text _ ⟨⟩
    exact ⟨"", (String.append_empty).symm, by decide⟩
  have hmodule : IsModule path := ⟨"person", by decide, .inl (by decide)⟩
  have hclear : Clear Unopened {} staff path := clear_of_all (by decide +kernel) path
  have hinside : Inside body := by decide
  obtain ⟨t₁, report, hrun, hsuccess, hpath⟩ := exists_staffRun
  obtain ⟨record, hrecord, hrelative⟩ := List.mem_map.mp hpath
  have hfirst : Generates (fun _ text => .ok text) {} staff path {} t₁ :=
    ⟨report, hrun, record, hrecord, hrelative⟩
  obtain ⟨before, hbefore, hone, hsurvives⟩ :=
    customRegion_survives hstyle hstyle rfl hmodule hclear hclear hfirst
  obtain ⟨after, hedits⟩ := exists_edits (List.ne_nil_of_length_eq_add_one hone) body
  obtain ⟨_, _, hread⟩ := generatedText?_eq_some.mp hbefore
  have hafter := hedits.return_notMem (FileTree.return_notMem_of_readText? hread) hinside
  obtain ⟨u, t₂, report₂, directory, hhome, hdirectory, hstored, hrun₂, _, hpaths⟩ :=
    exists_run_of_edit hrun hsuccess (fun _ _ => List.forall_mem_nil _) (by decide) hrecord after
  rw [hrelative] at hstored
  have hedited : generatedText? {} u path = some after := by
    refine generatedText?_eq_some.mpr ⟨directory, hdirectory, ?_⟩
    rw [hstored.readText?, FileTree.asRead_of_not_mem hafter]
  rw [← hpaths] at hpath
  obtain ⟨record₂, hrecord₂, hrelative₂⟩ := List.mem_map.mp hpath
  have hsecond : Generates (fun _ text => .ok text) {} staff path u t₂ :=
    ⟨report₂, hrun₂, record₂, hrecord₂, hrelative₂⟩
  obtain ⟨final, hfinal, hregions⟩ :=
    hsurvives body after u t₂ hinside (by decide) hedits hhome hedited hsecond
  exact ⟨t₁, u, t₂, before, after, final, hfirst, hbefore, hedits, hedited, hsecond, hfinal, hregions⟩

end SchemaScribe.Generation
