import OutletWiring.Proofs.Command.Job

/-!
# A file that fails

A walk through a directory ends at the first file that cannot be read or written. The files before
it are done, those after it are as if there had been no run.
-/

namespace OutletWiring.Command

def progressLine (terminal check changed : Bool) (shown : Text) : Text :=
  match terminal, changed, check with
  | false, true, false => "  ✓ " ++ shown
  | false, true, true => "  ✗ " ++ shown ++ " (out of date)"
  | false, false, _ => "  · " ++ shown ++ " (unchanged)"
  | true, true, false => "  \x1b[32m✓\x1b[0m " ++ shown
  | true, true, true => "  \x1b[33m✗\x1b[0m " ++ shown ++ " (out of date)"
  | true, false, _ => "  \x1b[2m· " ++ shown ++ " (unchanged)\x1b[0m"

theorem Printed.lines_processed (terminal : Bool) (elapsed shown : Text) (changed check : Bool) :
    (processed shown changed check).lines terminal elapsed =
      [progressLine terminal check changed shown] := by
  cases changed with
  | true => cases terminal <;> cases check <;> rfl
  | false =>
    cases terminal with
    | false => rfl
    | true =>
      have hline : progressLine true check false shown =
          "  " ++ styled true "2" ("· " ++ shown ++ " (unchanged)") := by
        unfold progressLine styled
        rw [if_pos rfl]
        simp only [List.append_assoc]
        rfl
      rw [hline]
      rfl

variable {argument selector : Text} {tree : FileTree} {base bad : Path} {before after : List Path}

/-- How a walk through the directory `base` ends at the file `bad`, after the files of `before` and
with a message: `left` is what is then in the file. -/
structure CutAt (tree : FileTree) (argument selector : Text) (check : Bool) (base : Path)
    (before : List Path) (bad : Path) (after : List Path) (left : Content) (message : Text)
    (ended : Result × FileTree) : Prop where
  exit : ended.1.exit = 1
  stdout : ended.1.stdout = .nothing ∧ ended.1.stdout.render = []
  /-- The files before it hold what is generated from them, unless the run only checks. -/
  holds : ∀ path ∈ before, ∃ source text report, tree.file? (base ++ path) = some (.text source) ∧
    OutletWiring.generate source selector = .ok (text, report) ∧
    ended.2.file? (base ++ path) = some (.text (if check then source else text))
  stops : ended.2.file? (base ++ bad) = some left
  leaves : ∀ path ∈ after, ended.2.file? (base ++ path) = tree.file? (base ++ path)
  others : ∀ path, path ∉ (before ++ [bad]).map (base ++ ·) → ended.2.file? path = tree.file? path
  checked : check = true → ended.2 = tree
  /-- Apart from the log there is one line for each file before it, one for the error, and no
  summary. -/
  stderr : ∀ terminal elapsed,
    Printed.text terminal elapsed (ended.1.stderr.filter fun printed => !printed.isLog) =
      (before.map (fun path => progressLine terminal check
        ((tree.generated? selector (base ++ path)).any (·.2.changed)) (shownBelow argument path)) ++
          [("Error: " : Text) ++ message]).flatMap (· ++ ("\n" : Text))

namespace Job

variable {job : Job} {input : Content} {source : Source} {generated : Generated}

/-- The job fails at the file, of which `left` remains, and touches no other. -/
def FailsAt (job : Job) (input : Content) (source : Source) (left : Content) (error : Error)
    (tree : FileTree) : Prop :=
  ∃ failed tree', (job.processFile (FileTree.host input) source).run tree = (failed, tree') ∧
    failed.error? = some error ∧ failed.stderr.filter (fun printed => !printed.isLog) = [] ∧
    tree'.file? source.path = some left ∧
    (∀ path, path ≠ source.path → tree'.file? path = tree.file? path) ∧
    (job.check = true → tree' = tree)

theorem failsAt_of_unreadable {content : Content} {reason : Text}
    (hfile : tree.file? source.path = some content) (hread : content.read = .error reason) :
    job.FailsAt input source content (.unreadable source.shown reason) tree := by
  have hthere : tree.read source.path = .error reason := (FileTree.read_of_file? hfile).trans hread
  refine ⟨{ error? := some (.unreadable source.shown reason) }, tree, ?_, rfl, rfl, hfile,
    fun _ _ => rfl, fun _ => rfl⟩
  simp only [processFile, run_bind, run_read, hthere, run_pure]

theorem failsAt_of_unwritable {failure : WriteFailure}
    (hmakes : source.Makes tree job.variant generated) (hchanged : generated.report.changed = true)
    (hcheck : job.check = false)
    (hfailure : tree.writeFailure? source.path generated.lines.toText = some failure) :
    job.FailsAt input source failure.left (.unwritable source.shown failure.reason) tree := by
  obtain ⟨text, hfile, hrun⟩ := hmakes
  have hthere : tree.read source.path = .ok text := FileTree.read_of_file? hfile
  refine ⟨job.progress source generated (.error failure.reason), tree.put source.path failure.left,
    ?_, rfl, job.filter_history source generated, ?_, ?_, by simp [hcheck]⟩
  · simp only [processFile, run_bind, run_read, hthere, process, hrun, hchanged, hcheck,
      Bool.not_false, Bool.and_self, if_true, run_write, FileTree.write, hfailure]
    rfl
  · simp [FileTree.file?_put, hfile]
  · intro path hne
    rw [FileTree.file?_put, if_neg hne]

end Job

theorem Printed.text_processed (terminal : Bool) (elapsed : Text) (check : Bool)
    (paths : List Path) (shown : Path → Text) (changed : Path → Bool) (message : Text) :
    text terminal elapsed
        (paths.map (fun path => processed (shown path) (changed path) check) ++ [.error message]) =
      (paths.map (fun path => progressLine terminal check (changed path) (shown path)) ++
        [("Error: " : Text) ++ message]).flatMap (· ++ ("\n" : Text)) := by
  rw [text, List.flatMap_append, List.flatMap_map]
  simp only [lines_processed, ← List.map_eq_flatMap]
  rfl

variable {job : Job} {input : Content} {done : List (Source × Generated)} {left : Content}
  {message : Text}

theorem map_path_of_below (hdone : done.map Prod.fst = before.map (Source.below argument base)) :
    done.map (·.1.path) = before.map (base ++ ·) := by
  have hpaths := congrArg (List.map Source.path) hdone
  rwa [List.map_map, List.map_map] at hpaths

/-- What is left by a job that has done the files of `before` and then fails. -/
theorem Job.cutAt {failed : Progress} {tree' : FileTree} (started : List Text)
    (hv : Catalogue.standard.resolve? selector = some job.variant)
    (hmakes : ∀ file ∈ done, file.1.Makes tree job.variant file.2)
    (hdone : done.map Prod.fst = before.map (Source.below argument base))
    (hnodup : ((before ++ bad :: after).map (base ++ ·)).Nodup)
    (hquiet : failed.stderr.filter (fun printed => !printed.isLog) = [])
    (hleft : tree'.file? (base ++ bad) = some left)
    (hothers : ∀ path, path ≠ base ++ bad → tree'.file? path = (job.leaves tree done).file? path)
    (honly : job.check = true → tree' = job.leaves tree done) :
    CutAt tree argument selector job.check base before bad after left message ({
      exit := 1
      stderr := started.map .log ++
        (done.flatMap (fun file => (job.progress file.1 file.2 (.ok ())).stderr) ++
          (failed.stderr ++ [.error message])) }, tree') := by
  have hpaths := map_path_of_below hdone
  rw [List.map_append, List.map_cons, List.nodup_append, List.nodup_cons] at hnodup
  obtain ⟨hfirst, ⟨hbad, -⟩, hapart⟩ := hnodup
  have hkept : ∀ path, path ≠ base ++ bad → path ∉ before.map (base ++ ·) →
      tree'.file? path = tree.file? path := fun path hne hnot =>
    (hothers path hne).trans (file?_leaves_of_not_mem (hpaths ▸ hnot))
  exact {
    exit := rfl
    stdout := ⟨rfl, rfl⟩
    holds := by
      intro path hmem
      have hmem : base ++ path ∈ before.map (base ++ ·) := List.mem_map_of_mem hmem
      have hne : base ++ path ≠ base ++ bad := hapart _ hmem _ (List.mem_cons_self ..)
      rw [← hpaths] at hmem
      obtain ⟨file, hfile, heq⟩ := List.mem_map.1 hmem
      obtain ⟨source, hc, hgenerate, -, hholds⟩ := holds_of_mem hmakes (hpaths ▸ hfirst) hv hfile
      rw [heq] at hc hholds
      exact ⟨source, _, _, hc, hgenerate, (hothers _ hne).trans hholds⟩
    stops := hleft
    leaves := by
      intro path hmem
      have hmem : base ++ path ∈ after.map (base ++ ·) := List.mem_map_of_mem hmem
      refine hkept _ (fun heq => hbad (heq ▸ hmem)) fun hin => ?_
      exact hapart _ hin _ (List.mem_cons_of_mem _ hmem) rfl
    others := by
      intro path hnot
      rw [List.map_append, List.map_singleton, List.mem_append, List.mem_singleton, not_or] at hnot
      exact hkept path hnot.2 hnot.1
    checked := by
      intro hchecks
      rw [honly hchecks, leaves_of_check hchecks]
    stderr := by
      intro terminal elapsed
      rw [List.filter_append, filter_log, List.nil_append, List.filter_append, List.filter_append,
        hquiet, List.nil_append, filter_stderr hv hmakes, hdone, List.map_map]
      exact Printed.text_processed terminal elapsed job.check before _ _ message }

section Request

variable {environment : Environment} {options : Options} (verbose : Bool) (input : Content)
  {files : List Path} (hinput : options.fromInput = false) (hpath : options.path? = some argument)
  (hselector : chosenSelector environment options ∈ Catalogue.standard.selectors)
  (hdirectory : tree.locate argument = .directory base files)
  (hwalk : swiftFiles environment.order files = before ++ bad :: after)
  (hbefore : ∀ path ∈ before, ∃ source, tree.file? (base ++ path) = some (.text source) ∧
    OutletWiring.generate source (chosenSelector environment options) ≠ .error .stuck)
  (hwritable : options.check = false → ∀ path ∈ before, tree.Writable (base ++ path))
include hinput hpath hselector hdirectory hwalk hbefore hwritable

/-- A walk ends at a file at which every job fails that has done the files before it. -/
theorem cutAt_of_failsAt (error : Error)
    (herror : error.exit = 1 ∧ error.message? = some message)
    (hfails : ∀ (job : Job) (done : List (Source × Generated)),
      Catalogue.standard.resolve? (chosenSelector environment options) = some job.variant →
      job.check = options.check → base ++ bad ∉ done.map (·.1.path) →
      job.FailsAt input (.below argument base bad) left error (job.leaves tree done)) :
    CutAt tree argument (chosenSelector environment options) options.check base before bad after
      left message (serveOn environment ⟨verbose, .generate options⟩ input tree) := by
  have hsources : (tree.locate argument).sources environment.order argument =
      (before ++ bad :: after).map (Source.below argument base) := by
    rw [hdirectory, Located.sources, hwalk]
  have hnodup : ((before ++ bad :: after).map (base ++ ·)).Nodup := by
    have := (tree.walked_sources environment.order argument).nodup
    rwa [hsources, List.map_map] at this
  obtain ⟨variant, hv⟩ := exists_resolve? hselector
  have hmakes : ∀ source ∈ before.map (Source.below argument base),
      ∃ generated, source.Makes tree variant generated := by
    intro source hsource
    obtain ⟨path, hmem, rfl⟩ := List.mem_map.1 hsource
    obtain ⟨text, hfile, hstuck⟩ := hbefore path hmem
    exact Source.exists_makes hv hfile hstuck
  obtain ⟨done, hdone, hmakes⟩ := Source.exists_done hmakes
  have hpaths := map_path_of_below hdone
  have hapart := hnodup
  rw [List.map_append, List.nodup_append, ← hpaths] at hapart
  obtain ⟨job, started, rfl, hcheck, -, hserve⟩ := @serveOn_generate environment options argument
    variant tree verbose input hinput hpath hv (by simp [hsources])
  have hdonable : job.check = false → ∀ file ∈ done, tree.Writable file.1.path := by
    intro hwrites file hfile
    have hmem : file.1.path ∈ before.map (base ++ ·) := hpaths ▸ List.mem_map_of_mem hfile
    obtain ⟨path, hpath, heq⟩ := List.mem_map.1 hmem
    exact heq ▸ hwritable (hcheck ▸ hwrites) path hpath
  obtain ⟨failed, tree', hfailed, herror?, hquiet, hleft, hothers, honly⟩ :=
    hfails job done hv hcheck fun hin => hapart.2.2 _ hin (base ++ bad) (by simp) rfl
  obtain ⟨ended, hended, hfinish⟩ := Job.finish_of_failed hmakes hapart.1 hdonable hfailed herror?
    (after.map (Source.below argument base))
  rw [hdone, ← List.map_cons, ← List.map_append, ← hsources] at hended
  rw [hserve ended _ hended, hfinish, ← hcheck, herror.1, Printed.ofError, herror.2]
  exact Job.cutAt started hv hmakes hdone hnodup hquiet hleft hothers honly

/-- A write that fails ends a walk; what it leaves in its file is all that is lost. -/
theorem walk_cut_at_unwritable {source text : Text} {report : Report} {failure : WriteFailure}
    (hcheck : options.check = false) (hbad : tree.file? (base ++ bad) = some (.text source))
    (hgenerate : OutletWiring.generate source (chosenSelector environment options) =
      .ok (text, report)) (hchanged : report.changed = true)
    (hfailure : tree.writeFailure? (base ++ bad) text = some failure) :
    CutAt tree argument (chosenSelector environment options) options.check base before bad after
      failure.left ("failed to write " ++ shownBelow argument bad ++ ": " ++ failure.reason)
      (serveOn environment ⟨verbose, .generate options⟩ input tree) := by
  refine cutAt_of_failsAt verbose input hinput hpath hselector hdirectory hwalk hbefore hwritable
    (.unwritable (shownBelow argument bad) failure.reason) ⟨rfl, rfl⟩ ?_
  intro job done hv hjob hnot
  obtain ⟨variant, hvariant, generated, hrun, htext, hreport⟩ := generate_eq_ok_iff_run.1 hgenerate
  obtain rfl : variant = job.variant := by simpa [hv] using hvariant.symm
  subst htext hreport
  have hthere : (job.leaves tree done).file? (base ++ bad) = some (.text source) :=
    (Job.file?_leaves_of_not_mem hnot).trans hbad
  refine Job.failsAt_of_unwritable ⟨source, hthere, hrun⟩ hchanged (hjob.trans hcheck) ?_
  rw [Job.leaves, FileTree.writeFailure?_putAll]
  exact hfailure

end Request

/-- A file that is not text ends a walk through a directory, whatever it would have found later. -/
theorem walk_cut_at_unreadable (environment : Environment) (options : Options) (argument : Text)
    (verbose : Bool) (input : Content) (tree : FileTree) (base bad : Path)
    (files before after : List Path) (bytes : List UInt8)
    (hinput : options.fromInput = false) (hpath : options.path? = some argument)
    (hselector : chosenSelector environment options ∈ Catalogue.standard.selectors)
    (hdirectory : tree.locate argument = .directory base files)
    (hwalk : swiftFiles environment.order files = before ++ bad :: after)
    (hbefore : ∀ path ∈ before, ∃ source, tree.file? (base ++ path) = some (.text source) ∧
      OutletWiring.generate source (chosenSelector environment options) ≠ .error .stuck)
    (hwritable : options.check = false → ∀ path ∈ before, tree.Writable (base ++ path))
    (hbad : tree.file? (base ++ bad) = some (.binary bytes)) :
    CutAt tree argument (chosenSelector environment options) options.check base before bad after
      (.binary bytes)
      ("failed to read " ++ shownBelow argument bad ++ ": stream did not contain valid UTF-8")
      (serveOn environment ⟨verbose, .generate options⟩ input tree) := by
  refine cutAt_of_failsAt verbose input hinput hpath hselector hdirectory hwalk hbefore hwritable
    (.unreadable (shownBelow argument bad) "stream did not contain valid UTF-8") ⟨rfl, ?_⟩ ?_
  · have hreason : (": stream did not contain valid UTF-8" : Text) =
        ": " ++ ("stream did not contain valid UTF-8" : Text) := by decide
    rw [hreason, ← List.append_assoc]
    rfl
  · intro job done _ _ hnot
    exact Job.failsAt_of_unreadable ((Job.file?_leaves_of_not_mem hnot).trans hbad) rfl

/-- A directory above the one in which the command is started; its second Swift file is not text. -/
def partlyText : FileTree where
  files := [
    (["App", "a.swift"], .text crowded), (["App", "a.txt"], .text crowded),
    (["App", "b.swift"], .binary [0xff]), (["App", "c", "d.swift"], .text crowded)]
  workingDirectory := ["App", "c"]

theorem walk_cut_at_unreadable_partlyText :
    CutAt partlyText "../" Variant.dev.selector false ["App"] [["a.swift"]] ["b.swift"]
      [["c", "d.swift"]] (.binary [0xff])
      "failed to read ../b.swift: stream did not contain valid UTF-8"
      (runOn {} ["generate", "../", "--json"] (.text []) partlyText) := by
  have hrequest : Request.ofArguments ["generate", "../", "--json"] =
      .ok ⟨false, .generate ⟨some "../", false, none, true, false⟩⟩ := by decide
  have hselector : chosenSelector {} ⟨some "../", false, none, true, false⟩ ∈
      Catalogue.standard.selectors := by decide
  have hdirectory : partlyText.locate "../" =
      .directory ["App"] (partlyText.below ["App"]) := rfl
  have hwalk : swiftFiles Path.byName (partlyText.below ["App"]) =
      ([["a.swift"], ["b.swift"], ["c", "d.swift"]] : List Path) :=
    swiftFiles_of_sorted (by decide) (by decide)
  rw [runOn_of_request (.text []) hrequest]
  refine walk_cut_at_unreadable {} ⟨some "../", false, none, true, false⟩ "../" false (.text [])
    partlyText ["App"] ["b.swift"] _ [["a.swift"]] [["c", "d.swift"]] [0xff] rfl rfl hselector
    hdirectory hwalk ?_ (fun _ _ _ _ => rfl) rfl
  intro file hfile
  obtain rfl := List.mem_singleton.1 hfile
  exact ⟨_, rfl, by decide⟩

end OutletWiring.Command
