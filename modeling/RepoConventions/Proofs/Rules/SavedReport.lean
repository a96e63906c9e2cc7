import RepoConventions.Proofs.Rules.WarningReport

/-!
# One save after any adds

However much is added to a new report, its save tells whether anything was written: then the report file holds a line
for every heading and warning, in order, and the step output its flag. Before the save no other file than the report is
touched.
-/

namespace RepoConventions.Rules

open Files (FileTree)

/-! Adds -/

abbrev Adds := List (String × List String)

namespace Adds

def calls (adds : Adds) : List ReportCall := adds.map fun a => .add a.1 a.2

def areReported (c : Config) (adds : Adds) : Bool := c.writesReports && adds.any fun a => !a.2.isEmpty

/-- The lines of a report: for each rule with warnings its heading, and then a line for each warning. -/
def lines (adds : Adds) : List String :=
  adds.flatMap fun a => if a.2.isEmpty then [] else ("**🟡 " ++ a.1 ++ "**") :: a.2.map ("* " ++ ·)

def text (adds : Adds) : String := .join (adds.lines.map (· ++ "\n"))

def blocks (adds : Adds) : List String := adds.calls.filterMap ReportCall.block?

variable {a : String × List String}

theorem blocks_cons_of_isEmpty (h : a.2.isEmpty = true) (rest : Adds) : blocks (a :: rest) = blocks rest :=
  List.filterMap_cons_none (by simp [ReportCall.block?, h])

theorem blocks_cons (h : a.2.isEmpty = false) (rest : Adds) :
    blocks (a :: rest) = warningBlock a.1 a.2 :: blocks rest := by
  apply List.filterMap_cons_some
  show ReportCall.block? (.add a.1 a.2) = some (warningBlock a.1 a.2)
  simp [ReportCall.block?, h]

theorem isEmpty_blocks (adds : Adds) : adds.blocks.isEmpty = !adds.any fun a => !a.2.isEmpty := by
  induction adds with
  | nil => rfl
  | cons a rest ih =>
    cases hempty : a.2.isEmpty with
    | true => simp [blocks_cons_of_isEmpty hempty, ih, hempty]
    | false => simp [blocks_cons hempty, hempty]

theorem warningBlock_eq (rule : String) (warnings : List String) :
    warningBlock rule warnings =
      .join ((("**🟡 " ++ rule ++ "**") :: warnings.map ("* " ++ ·)).map (· ++ "\n")) := by
  apply String.toList_injective
  simp [warningBlock, String.toList_join, Function.comp_def]

theorem join_blocks (adds : Adds) : String.join adds.blocks = adds.text := by
  induction adds with
  | nil => rfl
  | cons a rest ih =>
    have htext : text (a :: rest) =
        String.join ((if a.2.isEmpty then [] else ("**🟡 " ++ a.1 ++ "**") :: a.2.map ("* " ++ ·)).map (· ++ "\n")) ++
          text rest := by
      rw [text, lines, List.flatMap_cons, List.map_append, String.join_append]
      rfl
    rw [htext]
    cases hempty : a.2.isEmpty with
    | true => simp [blocks_cons_of_isEmpty hempty, ih]
    | false =>
      rw [blocks_cons hempty, String.join_cons, ih, warningBlock_eq]
      simp

theorem isEmpty_toUTF8_text {adds : Adds} (h : (adds.any fun a => !a.2.isEmpty) = true) :
    ¬ adds.text.toUTF8.isEmpty = true := by
  intro hempty
  have htext : adds.text = "" := by simpa [ByteArray.isEmpty] using hempty
  have hblocks : adds.blocks.isEmpty = false := by rw [isEmpty_blocks, h]; rfl
  obtain ⟨block, rest, hcons⟩ := List.exists_cons_of_ne_nil (by simpa using hblocks)
  have hblock : block ≠ "" := ReportCall.block_ne_empty (hcons ▸ List.mem_cons_self)
  rw [← join_blocks, hcons, String.join_cons] at htext
  exact hblock (String.append_eq_empty_iff.mp htext).1

theorem foldl_after (adds : Adds) (p : Page) (hp : p.isOpen = !p.blocks.isEmpty) :
    adds.calls.foldl Page.after p = ⟨p.blocks ++ adds.blocks, !(p.blocks ++ adds.blocks).isEmpty⟩ := by
  induction adds generalizing p with
  | nil =>
    show p = ⟨p.blocks ++ [], !(p.blocks ++ []).isEmpty⟩
    rw [List.append_nil, ← hp]
  | cons a rest ih =>
    have hcalls : calls (a :: rest) = .add a.1 a.2 :: calls rest := rfl
    rw [hcalls, List.foldl_cons]
    cases hempty : a.2.isEmpty with
    | true =>
      rw [p.after_add_idle a.1 hempty, ih p hp, blocks_cons_of_isEmpty hempty]
    | false =>
      have hpage : p.after (.add a.1 a.2) = ⟨p.blocks ++ [warningBlock a.1 a.2], true⟩ := by
        rw [p.after_add a.1 hempty, hp]
        cases p.blocks <;> rfl
      rw [hpage, ih _ (by simp), blocks_cons hempty, List.append_assoc, List.singleton_append]

end Adds

/-! A run of adds -/

namespace ReportCall

variable {s s' : Session}

theorem performAll_cons {c : ReportCall} (h : c.perform s = .ok s') (rest : List ReportCall) :
    performAll s (c :: rest) = performAll s' rest := by
  rw [performAll, List.foldlM_cons, h]
  rfl

end ReportCall

theorem Adds.performAll_idle (adds : Adds) (s : Session)
    (h : s.warnings.enabled = false ∨ ∀ a ∈ adds, a.2.isEmpty = true) :
    ReportCall.performAll s adds.calls = .ok s := by
  induction adds with
  | nil => rfl
  | cons a rest ih =>
    have ha : s.warnings.enabled = false ∨ a.2.isEmpty = true := h.imp_right fun hall => hall a List.mem_cons_self
    have hrest : s.warnings.enabled = false ∨ ∀ a ∈ rest, a.2.isEmpty = true :=
      h.imp_right fun hall b hb => hall b (List.mem_cons_of_mem a hb)
    exact (ReportCall.performAll_cons (ReportCall.perform_add_idle ha) _).trans (ih hrest)

namespace Reports

variable {r : WarningReport} {t : FileTree} {p : Page} {s s' : Session} {place : List String}

theorem exists_add (h : Reports r t p s) (hplace : t.fileLocation r.path = .ok place)
    (hfault : t.writeFault place = none) (rule : String) (warnings : List String) :
    ∃ s', (ReportCall.add rule warnings).perform s = .ok s' ∧ RewrittenAt place s.tree s'.tree := by
  cases hidle : !s.warnings.enabled || warnings.isEmpty with
  | true => exact ⟨s, ReportCall.perform_add_idle (by simpa using hidle), .refl place s.tree⟩
  | false =>
    have hopened : ∃ w u, s.warnings.opened s.tree = .ok (w, u) := by
      unfold WarningReport.opened
      cases hwriter : s.warnings.writer with
      | some w => exact ⟨w, s.tree, rfl⟩
      | none =>
        have hpath : s.warnings.path = r.path := by rw [h.report]
        have hcreate : s.tree.create s.warnings.path = .ok (⟨place, 0⟩, s.tree.putFile place .empty) := by
          rw [FileTree.create_eq_ok_iff]
          exact ⟨place, hpath ▸ (h.places _ _).mpr hplace, rfl, rfl⟩
        rw [hcreate]
        exact ⟨_, _, rfl⟩
    obtain ⟨w, u, hopened⟩ := hopened
    obtain ⟨place', hplace', hrewritten, hheld⟩ := h.opened hopened
    obtain rfl : place' = place := by simpa [hplace] using hplace'.symm
    have hfault' : u.writeFault place' = none := by rw [hrewritten.faults, h.faults, hfault]
    obtain ⟨w', u', hwrite⟩ := hheld.exists_write hfault' (warningBlock rule warnings).toUTF8
    obtain ⟨-, hrewritten'⟩ := hheld.write hwrite
    refine ⟨⟨{ s.warnings with writer := some w' }, u'⟩, ?_, hrewritten.trans hrewritten'⟩
    simp only [ReportCall.perform, WarningReport.add, hidle, hopened, hwrite, Bool.false_eq_true, if_false]

theorem exists_adds (h : Reports r t p s) (he : r.enabled = true) (hplace : t.fileLocation r.path = .ok place)
    (hfault : t.writeFault place = none) (adds : Adds) :
    ∃ s', ReportCall.performAll s adds.calls = .ok s' ∧ Reports r t (adds.calls.foldl Page.after p) s' ∧
      RewrittenAt place s.tree s'.tree := by
  induction adds generalizing s p with
  | nil => exact ⟨s, rfl, h, .refl place s.tree⟩
  | cons a rest ih =>
    obtain ⟨s', hs', hrewritten⟩ := h.exists_add hplace hfault a.1 a.2
    obtain ⟨s'', hs'', hreports, hrewritten'⟩ := ih (h.add he hs')
    exact ⟨s'', (ReportCall.performAll_cons hs' _).trans hs'', hreports, hrewritten.trans hrewritten'⟩

theorem exists_writeText (h : Reports r t p s) {u : FileTree} (hrewritten : RewrittenAt place s.tree u)
    {path text : String} (hwritten : ∃ v, t.writeText path text = .ok v) : ∃ v, u.writeText path text = .ok v := by
  obtain ⟨v, hwritten⟩ := hwritten
  obtain ⟨location, hlocation, hfree, -⟩ := FileTree.write_eq_ok_iff.mp hwritten
  refine ⟨_, FileTree.write_eq_ok_iff.mpr ⟨location, ?_, ?_, rfl⟩⟩
  · exact (hrewritten.places _ _).mpr ((h.places _ _).mpr hlocation)
  · rwa [hrewritten.faults, h.faults]

/-- A save of an open report that cannot fail leaves the page in the report file, and the flag in the step output. -/
theorem exists_save (h : Reports r t p s) (hopen : p.isOpen = true) (hapart : r.IsApart t)
    (hplace : t.fileLocation r.path = .ok place) (hfault : t.writeFault place = none)
    (houtput : ∀ output, r.githubOutput = some output → ∃ u, t.writeText output warningsFlag = .ok u) :
    ∃ after u, s.warnings.save s.tree = (.ok true, after, u) ∧ u.readText r.path = .ok (String.join p.blocks) ∧
      (∀ output, r.githubOutput = some output → u.readText output = .ok warningsFlag) ∧
      RewrittenIn (r.path :: r.githubOutput.toList) s.tree u := by
  obtain ⟨w, hw⟩ : ∃ w, s.warnings.writer = some w := by
    rw [← Option.isSome_iff_exists, ← h.isOpen, hopen]
  obtain ⟨result, u, hsave, hsaves⟩ := WarningReport.save_of_open hw s.tree
  have hsame : s.warnings.githubOutput = r.githubOutput := by rw [h.report]
  have hflushed : ∃ w' v, w.flush s.tree = .ok (w', v) := by
    obtain ⟨-, place', hplace', hheld⟩ := h.held w hw
    obtain rfl : place' = place := by simpa [hplace] using hplace'.symm
    exact hheld.exists_flush (by rw [h.faults, hfault])
  have hdone : ∀ flagged, result = .ok flagged → u.readText r.path = .ok (String.join p.blocks) ∧
      RewrittenIn (r.path :: r.githubOutput.toList) s.tree u := by
    rintro flagged rfl
    obtain ⟨place', hplace', hfile, hrewritten⟩ := h.written hapart hw hsaves
    refine ⟨FileTree.readText_of_fileLocation ?_ hfile, hrewritten⟩
    exact (hrewritten.places _ _).mpr ((h.places _ _).mpr hplace')
  cases hsaves with
  | unflushed hflush =>
    obtain ⟨w', v, hflushed⟩ := hflushed
    rw [hflush] at hflushed
    cases hflushed
  | unflagged _ hnone =>
    obtain ⟨hread, hrewritten⟩ := hdone true rfl
    rw [hsame] at hnone
    exact ⟨_, _, hsave, hread, by simp [hnone], hrewritten⟩
  | @flagged _ _ _ output _ hsome hwritten =>
    obtain ⟨hread, hrewritten⟩ := hdone true rfl
    rw [hsame] at hsome
    refine ⟨_, _, hsave, hread, fun output' houtput' => ?_, hrewritten⟩
    obtain rfl : output' = output := by simpa [hsome] using houtput'.symm
    exact FileTree.readText_writeText hwritten
  | refused hflush hsome hrefused =>
    obtain ⟨_, -, -, hrewritten⟩ := h.flushed hw hflush
    obtain ⟨v, hwritten⟩ := h.exists_writeText hrewritten (houtput _ (hsame ▸ hsome))
    cases hwritten.symm.trans (FileTree.write_of_replace_error hrefused)

end Reports

/-- Whatever is added to a new report whose file and step output can be written, no add and no save fails. Where there
is nothing to report no file is touched and the save says so. Otherwise the report file holds a heading for every rule
with warnings and a line for every warning, and the step output holds the flag, which was not written before. -/
theorem WarningReport.save_after_adds (c : Config) (t : FileTree) (adds : Adds)
    (hapart : (WarningReport.new c).IsApart t)
    (hreport : adds.areReported c = true → ∃ written, t.writeText c.warningsReportPath adds.text = .ok written)
    (hwrite : adds.areReported c = true → ∀ output, c.githubOutput = some output →
      ∃ written, t.writeText output warningsFlag = .ok written) :
    ∃ before after u, ReportCall.performAll ⟨.new c, t⟩ adds.calls = .ok before ∧
      before.warnings.save before.tree = (.ok (adds.areReported c), after, u) ∧
      (adds.areReported c = false → before.tree = t ∧ u = t) ∧
      (adds.areReported c = true →
        u.readText c.warningsReportPath = .ok adds.text ∧
        (∀ output, c.githubOutput = some output → u.readText output = .ok warningsFlag) ∧
        RewrittenIn [c.warningsReportPath] t before.tree ∧
        RewrittenIn (c.warningsReportPath :: c.githubOutput.toList) t u) := by
  cases hreported : adds.areReported c with
  | false =>
    have hidle : (WarningReport.new c).enabled = false ∨ ∀ a ∈ adds, a.2.isEmpty = true := by
      show c.writesReports = false ∨ ∀ a ∈ adds, a.2.isEmpty = true
      simpa [Adds.areReported, Classical.or_iff_not_imp_left] using hreported
    refine ⟨⟨.new c, t⟩, .new c, t, adds.performAll_idle _ hidle, save_of_closed rfl t, ?_, ?_⟩
    · exact fun _ => ⟨rfl, rfl⟩
    · exact fun h => absurd h (by decide)
  | true =>
    obtain ⟨written, hwritten⟩ := hreport hreported
    obtain ⟨place, hplace, hfree, -⟩ := FileTree.write_eq_ok_iff.mp hwritten
    obtain ⟨henabled, hany⟩ : c.writesReports = true ∧ (adds.any fun a => !a.2.isEmpty) = true := by
      simpa [Adds.areReported] using hreported
    have hfault : t.writeFault place = none := hfree.resolve_left (adds.isEmpty_toUTF8_text hany)
    obtain ⟨before, hbefore, hreports, hrewritten⟩ :=
      (Reports.new (.new c) t rfl).exists_adds henabled hplace hfault adds
    have hpage : adds.calls.foldl Page.after .clear = ⟨adds.blocks, true⟩ := by
      rw [adds.foldl_after .clear rfl]
      simp [Page.clear, adds.isEmpty_blocks, hany]
    rw [hpage] at hreports
    obtain ⟨after, u, hsave, hread, hflag, hsaved⟩ := hreports.exists_save rfl hapart hplace hfault (hwrite hreported)
    have htouched : ∀ paths, c.warningsReportPath ∈ paths → RewrittenIn paths t before.tree :=
      fun paths hmem => hrewritten.rewrittenIn hmem hplace
    refine ⟨before, after, u, hbefore, hsave, fun h => absurd h (by decide), fun _ => ?_⟩
    rw [adds.join_blocks] at hread
    exact ⟨hread, hflag, htouched _ (by simp), (htouched _ (by simp)).trans hsaved⟩

private def flaggedConfig : Config := (Config.ofRoot "/").withCi (some "summary.md") (some "/flags.txt")

private def threeAdds : Adds := [("A", ["w"]), ("B", []), ("A", ["x", "y"])]

/-- Three adds, one of them without a warning, to a report at a root where there is nothing. -/
theorem WarningReport.save_after_three_adds : ∃ before after u,
    ReportCall.performAll ⟨.new flaggedConfig, .empty⟩ threeAdds.calls = .ok before ∧
      before.warnings.save before.tree = (.ok true, after, u) ∧
      u.readText "/code-analysis-warnings.md" = .ok "**🟡 A**\n* w\n**🟡 A**\n* x\n* y\n" ∧
      u.readText "/flags.txt" = .ok "has-warnings=true" := by
  have hreport : FileTree.empty.fileLocation "/code-analysis-warnings.md" = .ok ["code-analysis-warnings.md"] := by
    rfl
  have hflags : FileTree.empty.fileLocation "/flags.txt" = .ok ["flags.txt"] := by rfl
  have hapart : (WarningReport.new flaggedConfig).IsApart .empty := by
    rintro output place ⟨⟩ hplace houtput
    have hsame : (.ok ["code-analysis-warnings.md"] : Except Files.FileError _) = .ok ["flags.txt"] :=
      (hreport.symm.trans hplace).trans (houtput.symm.trans hflags)
    simp at hsame
  have hwriteReport : ∃ written,
      FileTree.empty.writeText flaggedConfig.warningsReportPath threeAdds.text = .ok written :=
    ⟨_, FileTree.write_eq_ok_iff.mpr ⟨_, hreport, .inr rfl, rfl⟩⟩
  have hwrite : ∀ output, flaggedConfig.githubOutput = some output →
      ∃ written, FileTree.empty.writeText output warningsFlag = .ok written := by
    rintro output ⟨⟩
    exact ⟨_, FileTree.write_eq_ok_iff.mpr ⟨_, hflags, .inr rfl, rfl⟩⟩
  obtain ⟨before, after, u, hbefore, hsave, -, hsaved⟩ :=
    WarningReport.save_after_adds flaggedConfig .empty threeAdds hapart (fun _ => hwriteReport) fun _ => hwrite
  obtain ⟨hread, hflag, -⟩ := hsaved rfl
  exact ⟨before, after, u, hbefore, hsave, hread, hflag _ rfl⟩

end RepoConventions.Rules
