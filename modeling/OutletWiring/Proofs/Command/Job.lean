import OutletWiring.Command.Run
import OutletWiring.Proofs.Command.Walk
import OutletWiring.Proofs.Run.Changed

/-!
# What a job leaves

Files are processed one after the other, each read from what the files before it have left. As no
file comes twice, a job reads what stood there at the start (`processAll_append`), and a processed
file holds afterwards what is generated from it, unless the job only checks (`holds_of_mem`).
-/

namespace OutletWiring

/-- The text and the report that are generated from a file; nothing if it cannot be read or the run
is stuck. -/
def FileTree.generated? (tree : FileTree) (selector : Text) (path : Path) :
    Option (Text × Report) := do
  let text ← (tree.read path).toOption
  (generate text selector).toOption

/-- Whatever is written to the path gets there. -/
def FileTree.Writable (tree : FileTree) (path : Path) : Prop :=
  ∀ text, tree.writeFailure? path text = none

namespace Command

def Printed.isLog : Printed → Bool
  | log _ => true
  | _ => false

/-- The variant makes `generated` of the file. -/
def Source.Makes (tree : FileTree) (variant : Variant) (source : Source) (generated : Generated) :
    Prop :=
  ∃ text, tree.file? source.path = some (.text text) ∧
    variant.run (Lines.ofText text) = some generated

namespace Source

variable {tree : FileTree} {variant : Variant} {selector : Text} {source : Source}
  {generated : Generated}

theorem exists_makes (hv : Catalogue.standard.resolve? selector = some variant) {text : Text}
    (hc : tree.file? source.path = some (.text text))
    (h : OutletWiring.generate text selector ≠ .error .stuck) :
    ∃ generated, source.Makes tree variant generated := by
  cases hrun : variant.run (Lines.ofText text) with
  | none =>
    refine absurd ?_ h
    simp [OutletWiring.generate, Catalogue.dispatch, hv, hrun, Except.map]
  | some generated => exact ⟨generated, text, hc, hrun⟩

theorem exists_done {sources : List Source}
    (h : ∀ source ∈ sources, ∃ generated, source.Makes tree variant generated) :
    ∃ done : List (Source × Generated), done.map Prod.fst = sources ∧
      ∀ file ∈ done, file.1.Makes tree variant file.2 := by
  induction sources with
  | nil => exact ⟨[], rfl, by simp⟩
  | cons source sources ih =>
    rw [List.forall_mem_cons] at h
    obtain ⟨generated, hfirst⟩ := h.1
    obtain ⟨done, hdone, hrest⟩ := ih h.2
    exact ⟨(source, generated) :: done, by rw [List.map_cons, hdone],
      List.forall_mem_cons.2 ⟨hfirst, hrest⟩⟩

/-- What the variant makes of a file is what is generated from it by its selector. -/
theorem Makes.generate_eq (hm : source.Makes tree variant generated)
    (hv : Catalogue.standard.resolve? selector = some variant) :
    ∃ text, tree.file? source.path = some (.text text) ∧
      OutletWiring.generate text selector = .ok (generated.lines.toText, generated.report) ∧
      (generated.report.changed = true ↔ generated.lines.toText ≠ text) := by
  obtain ⟨text, hc, hrun⟩ := hm
  exact ⟨text, hc, generate_eq_ok_iff_run.2 ⟨variant, hv, generated, hrun, rfl, rfl⟩,
    variant.run_changed_iff hrun⟩

theorem Makes.generated?_eq (hm : source.Makes tree variant generated)
    (hv : Catalogue.standard.resolve? selector = some variant) :
    tree.generated? selector source.path = some (generated.lines.toText, generated.report) := by
  obtain ⟨text, hc, hgenerate, -⟩ := hm.generate_eq hv
  simp [FileTree.generated?, FileTree.read_of_file? hc, Content.read, hgenerate, Except.toOption]

theorem Makes.of_file?_eq {tree' : FileTree} (hm : source.Makes tree variant generated)
    (h : tree'.file? source.path = tree.file? source.path) :
    source.Makes tree' variant generated := by
  obtain ⟨text, hc, hrun⟩ := hm
  exact ⟨text, h.trans hc, hrun⟩

end Source

namespace Job

variable {job : Job} {tree : FileTree} {input : Content} {source : Source} {generated : Generated}
  {done : List (Source × Generated)}

/-! ## Processing -/

theorem run_bind {α β : Type} (action : StateM FileTree α) (next : α → StateM FileTree β)
    (tree : FileTree) :
    (action >>= next).run tree = (next (action.run tree).1).run (action.run tree).2 := rfl

theorem run_pure {α : Type} (value : α) (tree : FileTree) :
    (pure value : StateM FileTree α).run tree = (value, tree) := rfl

theorem run_read (tree : FileTree) (path : Path) :
    ((FileTree.host input).read path).run tree = (tree.read path, tree) := rfl

theorem run_write (tree : FileTree) (path : Path) (text : Text) :
    ((FileTree.host input).write path text).run tree = tree.write path text := rfl

def writes (job : Job) (file : Source × Generated) : List (Path × Text) :=
  if file.2.report.changed && !job.check then [(file.1.path, file.2.lines.toText)] else []

def leaves (job : Job) (tree : FileTree) (done : List (Source × Generated)) : FileTree :=
  tree.putAll (done.flatMap job.writes)

theorem path_of_mem_writes {file : Source × Generated} {path : Path}
    (h : path ∈ (job.writes file).map Prod.fst) : path = file.1.path := by
  rw [writes] at h
  split_ifs at h
  · exact List.mem_singleton.1 h
  · cases h

theorem processFile_of_makes (hm : source.Makes tree job.variant generated)
    (hw : job.check = false → tree.Writable source.path) :
    (job.processFile (FileTree.host input) source).run tree =
      (job.progress source generated (.ok ()), tree.putAll (job.writes (source, generated))) := by
  obtain ⟨text, hc, hrun⟩ := hm
  have hread : tree.read source.path = .ok text := FileTree.read_of_file? hc
  simp only [processFile, run_bind, run_read, hread, process, hrun, writes]
  split_ifs with hwrite
  · have hnone : tree.writeFailure? source.path generated.lines.toText = none :=
      hw (by simpa using (Bool.and_eq_true_iff.1 hwrite).2) _
    simp only [run_bind, run_write, FileTree.write, hnone]
    rfl
  · rfl

/-- A file that fails ends the job with what it leads to. -/
theorem processAll_of_failed {first : Progress} {tree' : FileTree}
    (hfirst : (job.processFile (FileTree.host input) source).run tree = (first, tree'))
    (hfailed : first.error?.isSome = true) (after : List Source) :
    (job.processAll (FileTree.host input) (source :: after)).run tree = (first, tree') := by
  simp only [processAll, run_bind, hfirst, hfailed, if_true, run_pure]

theorem processAll_of_passed {first rest : Progress} {tree₁ tree₂ : FileTree} {after : List Source}
    (hfirst : (job.processFile (FileTree.host input) source).run tree = (first, tree₁))
    (hpassed : first.error? = none)
    (hrest : (job.processAll (FileTree.host input) after).run tree₁ = (rest, tree₂)) :
    (job.processAll (FileTree.host input) (source :: after)).run tree = ({
      stderr := first.stderr ++ rest.stderr
      reports := first.reports ++ rest.reports
      error? := rest.error? }, tree₂) := by
  simp only [processAll, run_bind, hfirst, hpassed, Option.isSome_none, Bool.false_eq_true,
    if_false]
  simp only [hrest]
  rfl

section Done

variable (hmakes : ∀ file ∈ done, file.1.Makes tree job.variant file.2)
  (hnodup : (done.map (·.1.path)).Nodup)

section Writable

variable (hwritable : job.check = false → ∀ file ∈ done, tree.Writable file.1.path)
include hmakes hnodup hwritable

/-- Files after processed ones are processed as if they came first, on the tree that those leave. -/
theorem processAll_append {rest : List Source} {last : Progress} {tree' : FileTree}
    (hrest : (job.processAll (FileTree.host input) rest).run
      (job.leaves tree done) = (last, tree')) :
    (job.processAll (FileTree.host input) (done.map Prod.fst ++ rest)).run tree = ({
      stderr :=
        done.flatMap (fun file => (job.progress file.1 file.2 (.ok ())).stderr) ++ last.stderr
      reports := done.map (fun file => (file.1.shown, file.2.report)) ++ last.reports
      error? := last.error? }, tree') := by
  induction done generalizing tree with
  | nil => exact hrest
  | cons file done ih =>
    rw [List.forall_mem_cons] at hmakes
    rw [List.map_cons, List.nodup_cons] at hnodup
    rw [leaves, List.flatMap_cons, FileTree.putAll_append] at hrest
    have hfirst := @processFile_of_makes job tree input _ _ hmakes.1
      fun hcheck => hwritable hcheck file (by simp)
    have hunread : ∀ other ∈ done, (tree.putAll (job.writes file)).file? other.1.path =
        tree.file? other.1.path := by
      intro other hother
      refine FileTree.file?_putAll_of_not_mem fun hmem => hnodup.1 ?_
      rw [← path_of_mem_writes hmem]
      exact List.mem_map_of_mem hother
    have hdone := ih
      (fun other hother => (hmakes.2 other hother).of_file?_eq (hunread other hother))
      hnodup.2 (fun hcheck other hother text => by
        rw [FileTree.writeFailure?_putAll]
        exact hwritable hcheck other (by simp [hother]) text) hrest
    rw [List.map_cons, List.cons_append, processAll_of_passed hfirst rfl hdone]
    simp [progress]

theorem finish_of_done :
    ∃ ended, (job.processAll (FileTree.host input) (done.map Prod.fst)).run tree =
        (ended, job.leaves tree done) ∧
      job.finish ended = {
        exit := job.exit (done.any (·.2.report.changed))
        stdout := if job.json then .reports (done.map fun file => (file.1.shown, file.2.report))
          else .nothing
        stderr := done.flatMap (fun file => (job.progress file.1 file.2 (.ok ())).stderr) ++
          [.summary (done.countP (·.2.report.changed)) done.length job.check] } := by
  have hall := @processAll_append job tree input done hmakes hnodup hwritable [] {} _ rfl
  have hany : decide (0 < done.countP (·.2.report.changed)) = done.any (·.2.report.changed) := by
    rw [Bool.eq_iff_iff, decide_eq_true_iff, List.countP_pos_iff, List.any_eq_true]
  rw [List.append_nil] at hall
  refine ⟨_, hall, ?_⟩
  simp only [finish, List.append_nil, List.countP_map, List.length_map, Function.comp_def, hany]

/-- A file that fails ends the job; what was done before it stays. -/
theorem finish_of_failed {bad : Source} {failed : Progress} {tree' : FileTree} {error : Error}
    (hbad : (job.processFile (FileTree.host input) bad).run (job.leaves tree done) =
      (failed, tree'))
    (herror : failed.error? = some error) (after : List Source) :
    ∃ ended, (job.processAll (FileTree.host input) (done.map Prod.fst ++ bad :: after)).run tree =
        (ended, tree') ∧
      job.finish ended = {
        exit := error.exit
        stderr := done.flatMap (fun file => (job.progress file.1 file.2 (.ok ())).stderr) ++
          (failed.stderr ++ Printed.ofError error) } := by
  have hrest := processAll_of_failed hbad (by simp [herror]) after
  refine ⟨_, processAll_append hmakes hnodup hwritable hrest, ?_⟩
  simp only [finish, herror, List.append_assoc]

end Writable

/-! ## Files -/

theorem map_fst_writes_sublist (job : Job) (done : List (Source × Generated)) :
    ((done.flatMap job.writes).map Prod.fst).Sublist (done.map (·.1.path)) := by
  induction done with
  | nil => exact List.Sublist.refl _
  | cons file done ih =>
    rw [List.flatMap_cons, List.map_append, List.map_cons, writes]
    split_ifs
    · exact ih.cons_cons _
    · exact ih.cons _

theorem leaves_of_check (h : job.check = true) (done : List (Source × Generated)) :
    job.leaves tree done = tree := by
  have hnil : done.flatMap job.writes = [] := by simp [writes, h]
  rw [leaves, hnil]
  rfl

theorem file?_leaves_of_not_mem {path : Path} (h : path ∉ done.map (·.1.path)) :
    (job.leaves tree done).file? path = tree.file? path :=
  FileTree.file?_putAll_of_not_mem fun hmem => h ((job.map_fst_writes_sublist done).subset hmem)

theorem mem_written_leaves_iff {path : Path} : path ∈ (job.leaves tree done).written ↔
    path ∈ tree.written ∨ ∃ file ∈ done, file.1.path = path ∧
      file.2.report.changed = true ∧ job.check = false := by
  rw [leaves, FileTree.written_putAll, List.mem_append, List.map_flatMap, List.mem_flatMap]
  refine or_congr_right (exists_congr fun file => and_congr_right fun _ => ?_)
  rw [writes]
  split_ifs with hwrite
  · have hwrite : file.2.report.changed = true ∧ job.check = false := by simpa using hwrite
    simp [hwrite, eq_comm]
  · have hwrite : ¬ (file.2.report.changed = true ∧ job.check = false) := by simpa using hwrite
    simp [hwrite]

include hmakes hnodup

/-- A processed file holds what is generated from it, unless the job only checks. -/
theorem holds_of_mem {selector : Text} {file : Source × Generated}
    (hv : Catalogue.standard.resolve? selector = some job.variant) (hmem : file ∈ done) :
    ∃ text, tree.file? file.1.path = some (.text text) ∧
      OutletWiring.generate text selector = .ok (file.2.lines.toText, file.2.report) ∧
      (file.2.report.changed = true ↔ file.2.lines.toText ≠ text) ∧
      (job.leaves tree done).file? file.1.path =
        some (.text (if job.check then text else file.2.lines.toText)) := by
  obtain ⟨text, hc, hgenerate, hchanged⟩ := (hmakes file hmem).generate_eq hv
  refine ⟨text, hc, hgenerate, hchanged, ?_⟩
  by_cases hcheck : job.check = true
  · rw [leaves_of_check hcheck, hc, if_pos hcheck]
  rw [if_neg hcheck]
  by_cases hwrite : file.2.report.changed = true
  · have hwritten : (file.1.path, file.2.lines.toText) ∈ done.flatMap job.writes :=
      List.mem_flatMap.2 ⟨file, hmem, by simp [writes, hwrite, hcheck]⟩
    exact FileTree.file?_putAll_of_mem (hnodup.sublist (job.map_fst_writes_sublist done))
      hwritten hc
  · -- nothing is written, and what is generated is what stood there
    have hsame : file.2.lines.toText = text := by simpa [hchanged] using hwrite
    have hnot : file.1.path ∉ (done.flatMap job.writes).map Prod.fst := by
      rw [List.map_flatMap, List.mem_flatMap]
      rintro ⟨other, hother, hpath⟩
      obtain rfl : other = file :=
        List.inj_on_of_nodup_map hnodup hother hmem (path_of_mem_writes hpath).symm
      simp [writes, hwrite] at hpath
    rw [leaves, FileTree.file?_putAll_of_not_mem hnot, hc, hsame]

end Done

/-! ## What is printed -/

@[simp]
theorem filter_log (texts : List Text) :
    (texts.map Printed.log).filter (fun printed => !printed.isLog) = [] := by
  simp [Printed.isLog]

theorem filter_history (job : Job) (source : Source) (generated : Generated) :
    (job.history source generated).filter (fun printed => !printed.isLog) = [] :=
  filter_log _

theorem filter_progress (job : Job) (source : Source) (generated : Generated) :
    (job.progress source generated (.ok ())).stderr.filter (fun printed => !printed.isLog) =
      [.processed source.shown generated.report.changed job.check] := by
  rw [progress, List.filter_append, filter_history]
  rfl

theorem filter_stderr {selector : Text}
    (hv : Catalogue.standard.resolve? selector = some job.variant)
    (hmakes : ∀ file ∈ done, file.1.Makes tree job.variant file.2) :
    (done.flatMap fun file => (job.progress file.1 file.2 (.ok ())).stderr).filter
        (fun printed => !printed.isLog) =
      (done.map Prod.fst).map fun source => .processed source.shown
        ((tree.generated? selector source.path).any (·.2.changed)) job.check := by
  rw [List.filter_flatMap, List.map_map]
  simp only [filter_progress, ← List.map_eq_flatMap]
  refine List.map_congr_left fun file hfile => ?_
  simp [(hmakes file hfile).generated?_eq hv]

theorem runPath_of_sources {argument : Text} {ended : Progress} {tree' : FileTree}
    (hsources : (tree.locate argument).sources job.order argument ≠ [])
    (h : (job.processAll (FileTree.host input)
      ((tree.locate argument).sources job.order argument)).run tree = (ended, tree')) :
    (job.runPath (FileTree.host input) argument).run tree = (job.finish ended, tree') := by
  have hlocate : ((FileTree.host input).locate argument).run tree = (tree.locate argument, tree) :=
    rfl
  rw [runPath, run_bind, hlocate]
  cases hlocated : tree.locate argument with
  | missing => simp [hlocated, Located.sources] at hsources
  | file path =>
    rw [hlocated, Located.sources] at hsources h
    split_ifs at hsources h with hswift
    · simp only [hswift, if_true, run_bind, h, run_pure]
    · exact absurd rfl hsources
  | directory base files =>
    rw [hlocated, Located.sources] at hsources h
    simp only [List.isEmpty_iff, if_neg hsources, run_bind, h, run_pure]

end Job

/-! ## The command -/

variable {environment : Environment} {verbose : Bool} {options : Options} {argument : Text}
  {variant : Variant} {tree : FileTree}

theorem exists_resolve? {selector : Text} (h : selector ∈ Catalogue.standard.selectors) :
    ∃ variant, Catalogue.standard.resolve? selector = some variant := by
  obtain ⟨variant, hv, rfl⟩ := List.mem_map.1 h
  exact ⟨variant, Catalogue.resolve?_standard hv⟩

theorem runOn_of_request {arguments : List Text} {request : Request} (input : Content)
    (h : Request.ofArguments arguments = .ok request) :
    runOn environment arguments input tree = serveOn environment request input tree := by
  rw [runOn, run, h, serveOn]

/-- A request for a known variant at a path runs its job over the files there. -/
theorem serveOn_generate (verbose : Bool) (input : Content) (hinput : options.fromInput = false)
    (hpath : options.path? = some argument)
    (hv : Catalogue.standard.resolve? (chosenSelector environment options) = some variant)
    (hsources : (tree.locate argument).sources environment.order argument ≠ []) :
    ∃ (job : Job) (started : List Text), job.variant = variant ∧ job.check = options.check ∧
      job.json = options.json ∧ ∀ ended tree', (job.processAll (FileTree.host input)
          ((tree.locate argument).sources environment.order argument)).run tree = (ended, tree') →
        serveOn environment ⟨verbose, .generate options⟩ input tree =
          ({ job.finish ended with stderr := started.map .log ++ (job.finish ended).stderr },
            tree') := by
  obtain ⟨log, hlog⟩ :
      ∃ log, Log.Settings.make environment.logFormat? environment.logFilter? verbose = log :=
    ⟨_, rfl⟩
  refine ⟨⟨variant, options.check, options.json, environment.order, log⟩,
    log.render [Log.started log.format], rfl, rfl, rfl, fun ended tree' h => ?_⟩
  have hrun := Job.runPath_of_sources hsources h
  simp only [serveOn, serve, hlog, generate, hv, hinput, hpath, Job.run_bind, hrun]
  rfl

end Command

end OutletWiring
