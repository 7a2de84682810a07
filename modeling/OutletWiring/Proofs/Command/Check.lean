import OutletWiring.Proofs.Command.Job
import OutletWiring.Proofs.Command.Output

/-!
# What a check foretells

A run that only checks goes over the same files as one that writes. It writes nothing, gives out the
same reports, and tells by its exit code whether the other would leave any file different.
-/

namespace OutletWiring.Command

variable {argument selector : Text} {tree : FileTree}

/-- What a run that only checks tells of the run that writes, on the same tree. -/
structure Foretold (tree : FileTree) (order : Path → Path → Bool) (argument selector : Text)
    (json : Bool) (checked written : Result × FileTree) : Prop where
  /-- The tree knows what was written to, so there was not even a write that changed nothing. -/
  untouched : checked.2 = tree
  stdout : checked.1.stdout = written.1.stdout
  /-- One report for each file, in the order of the walk; they can be read back from the text. -/
  reports : ∃ reports : List (Text × Report),
    reports.map some = ((tree.locate argument).sources order argument).map (fun source =>
      (tree.generated? selector source.path).map fun made => (source.shown, made.2)) ∧
    written.1.stdout = (if json then .reports reports else .nothing) ∧
    if json then Output.reportsOfText? written.1.stdout.render = some reports
    else written.1.stdout.render = []
  outdated : checked.1.exit = 1 ↔ ∃ path, written.2.file? path ≠ tree.file? path
  current : checked.1.exit = 0 ↔ ∀ path, written.2.file? path = tree.file? path
  exit : written.1.exit = 0
  /-- Exactly the files with a change in their report are written. -/
  touched : ∀ path, path ∈ written.2.written ↔ path ∈ tree.written ∨
    tree.Names argument path ∧ ∃ source text report, tree.file? path = some (.text source) ∧
      OutletWiring.generate source selector = .ok (text, report) ∧ report.changed = true
  holds : ∀ path, tree.Names argument path → ∃ source text report,
    tree.file? path = some (.text source) ∧
      OutletWiring.generate source selector = .ok (text, report) ∧
      written.2.file? path = some (.text (if report.changed then text else source)) ∧
      (written.2.file? path ≠ tree.file? path ↔ report.changed = true)
  others : ∀ path, ¬ tree.Names argument path → written.2.file? path = tree.file? path

namespace Job

variable {job : Job} {order : Path → Path → Bool} {done : List (Source × Generated)}

section Writing

variable (hwrites : job.check = false)
  (hv : Catalogue.standard.resolve? selector = some job.variant)
  (hmakes : ∀ file ∈ done, file.1.Makes tree job.variant file.2)
  (hnodup : (done.map (·.1.path)).Nodup)
include hwrites hv hmakes

theorem mem_written_iff (path : Path)
    (hnames : ∀ path, tree.Names argument path ↔ path ∈ done.map (·.1.path)) :
    path ∈ (job.leaves tree done).written ↔ path ∈ tree.written ∨ tree.Names argument path ∧
      ∃ source text report, tree.file? path = some (.text source) ∧
        OutletWiring.generate source selector = .ok (text, report) ∧ report.changed = true := by
  rw [mem_written_leaves_iff, hnames, List.mem_map]
  refine or_congr_right ⟨?_, ?_⟩
  · rintro ⟨file, hmem, rfl, hchanged, -⟩
    obtain ⟨source, hc, hgenerate, -⟩ := (hmakes file hmem).generate_eq hv
    exact ⟨⟨file, hmem, rfl⟩, source, _, _, hc, hgenerate, hchanged⟩
  · rintro ⟨⟨file, hmem, rfl⟩, source, text, report, hthere, hgenerate, hchanged⟩
    obtain ⟨other, hc, hother, -⟩ := (hmakes file hmem).generate_eq hv
    obtain rfl : source = other := by simpa [hc] using hthere.symm
    rw [hgenerate] at hother
    obtain ⟨-, rfl⟩ := Prod.mk.inj (Except.ok.inj hother)
    exact ⟨file, hmem, rfl, hchanged, hwrites⟩

include hnodup

/-- A file is left different exactly if its report tells of a change. -/
theorem differs_iff {file : Source × Generated} (hmem : file ∈ done) :
    (job.leaves tree done).file? file.1.path ≠ tree.file? file.1.path ↔
      file.2.report.changed = true := by
  obtain ⟨text, hc, -, hchanged, hholds⟩ := holds_of_mem hmakes hnodup hv hmem
  rw [hchanged, hholds, hc]
  simp [hwrites]

/-- A file that was done holds what is generated from it if its report tells of a change, and else
what it held. -/
theorem exists_generate_of_mem {path : Path} (hmem : path ∈ done.map (·.1.path)) :
    ∃ source text report, tree.file? path = some (.text source) ∧
      OutletWiring.generate source selector = .ok (text, report) ∧
      (job.leaves tree done).file? path = some (.text (if report.changed then text else source)) ∧
      ((job.leaves tree done).file? path ≠ tree.file? path ↔ report.changed = true) := by
  obtain ⟨file, hfile, rfl⟩ := List.mem_map.1 hmem
  obtain ⟨text, hc, hgenerate, hchanged, hholds⟩ := holds_of_mem hmakes hnodup hv hfile
  refine ⟨text, _, _, hc, hgenerate, ?_, differs_iff hwrites hv hmakes hnodup hfile⟩
  rw [hholds, hwrites]
  by_cases hchange : file.2.report.changed = true
  · simp [hchange]
  · have hsame : file.2.lines.toText = text := by simpa [hchanged] using hchange
    simp [hsame]

theorem exists_differs_iff :
    (∃ path, (job.leaves tree done).file? path ≠ tree.file? path) ↔
      done.any (·.2.report.changed) = true := by
  rw [List.any_eq_true]
  constructor
  · rintro ⟨path, hne⟩
    by_cases hnamed : path ∈ done.map (·.1.path)
    · obtain ⟨file, hmem, rfl⟩ := List.mem_map.1 hnamed
      exact ⟨file, hmem, (differs_iff hwrites hv hmakes hnodup hmem).1 hne⟩
    · exact absurd (file?_leaves_of_not_mem hnamed) hne
  · rintro ⟨file, hmem, hchanged⟩
    exact ⟨_, (differs_iff hwrites hv hmakes hnodup hmem).2 hchanged⟩

end Writing

theorem foretold {json : Bool} {checked written : Result × FileTree} (hwrites : job.check = false)
    (hv : Catalogue.standard.resolve? selector = some job.variant)
    (hmakes : ∀ file ∈ done, file.1.Makes tree job.variant file.2)
    (hdone : done.map Prod.fst = (tree.locate argument).sources order argument)
    (hchecked : checked.2 = tree ∧
      checked.1.exit = (if done.any (·.2.report.changed) then 1 else 0) ∧
      checked.1.stdout = written.1.stdout)
    (hwritten : written.2 = job.leaves tree done ∧ written.1.exit = 0 ∧
      written.1.stdout =
        (if json then .reports (done.map fun file => (file.1.shown, file.2.report))
          else .nothing)) :
    Foretold tree order argument selector json checked written := by
  have hwalked := tree.walked_sources order argument
  rw [← hdone] at hwalked
  have hnames : ∀ path, tree.Names argument path ↔ path ∈ done.map (·.1.path) := by
    intro path
    rw [hwalked.names_iff, List.map_map]
    rfl
  have hnodup : (done.map (·.1.path)).Nodup := by
    have := hwalked.nodup
    rwa [List.map_map] at this
  have hdiffers := exists_differs_iff hwrites hv hmakes hnodup
  obtain ⟨htree, hexit, hstdout⟩ := hchecked
  obtain ⟨hleaves, hzero, hreports⟩ := hwritten
  exact {
    untouched := htree
    stdout := hstdout
    reports := by
      refine ⟨_, ?_, hreports, ?_⟩
      · rw [← hdone, List.map_map, List.map_map]
        refine List.map_congr_left fun file hfile => ?_
        simp [(hmakes file hfile).generated?_eq hv]
      · rw [hreports]
        split_ifs
        · exact Output.reportsOfText?_render _
        · rfl
    outdated := by
      rw [hleaves, hdiffers, hexit]
      cases done.any (·.2.report.changed) <;> simp
    current := by
      have hnone := not_congr hdiffers
      push Not at hnone
      rw [hleaves, hnone, hexit]
      cases done.any (·.2.report.changed) <;> simp
    exit := hzero
    touched := by
      rw [hleaves]
      exact fun path => mem_written_iff hwrites hv hmakes path hnames
    holds := by
      intro path hnamed
      rw [hleaves]
      exact exists_generate_of_mem hwrites hv hmakes hnodup ((hnames path).1 hnamed)
    others := by
      intro path hnot
      rw [hleaves]
      exact file?_leaves_of_not_mem ((hnames path).not.1 hnot) }

end Job

/-- A request that meets no failure: what it leaves, gives out and ends with. -/
theorem serveOn_done {environment : Environment} {options : Options} {variant : Variant}
    {done : List (Source × Generated)} (verbose : Bool) (input : Content)
    (hinput : options.fromInput = false) (hpath : options.path? = some argument)
    (hv : Catalogue.standard.resolve? (chosenSelector environment options) = some variant)
    (hsources : (tree.locate argument).sources environment.order argument ≠ [])
    (hmakes : ∀ file ∈ done, file.1.Makes tree variant file.2)
    (hwritable : options.check = false → ∀ file ∈ done, tree.Writable file.1.path)
    (hdone : done.map Prod.fst = (tree.locate argument).sources environment.order argument) :
    ∃ job : Job, job.variant = variant ∧ job.check = options.check ∧
      (serveOn environment ⟨verbose, .generate options⟩ input tree).2 = job.leaves tree done ∧
      (serveOn environment ⟨verbose, .generate options⟩ input tree).1.exit =
        (if options.check && done.any (·.2.report.changed) then 1 else 0) ∧
      (serveOn environment ⟨verbose, .generate options⟩ input tree).1.stdout =
        (if options.json then .reports (done.map fun file => (file.1.shown, file.2.report))
          else .nothing) := by
  obtain ⟨job, started, rfl, hcheck, hjson, hserve⟩ :=
    serveOn_generate verbose input hinput hpath hv hsources
  have hnodup : (done.map (·.1.path)).Nodup := by
    have := (tree.walked_sources environment.order argument).nodup
    rwa [← hdone, List.map_map] at this
  obtain ⟨ended, hended, hfinish⟩ :=
    @Job.finish_of_done job tree input done hmakes hnodup (by rwa [hcheck])
  rw [hdone] at hended
  rw [hserve ended _ hended, hfinish]
  exact ⟨job, rfl, hcheck, rfl, by rw [← hcheck]; rfl, by rw [← hjson]⟩

/-- A check foretells the run that writes: over the files that the argument names, if they are all
text, the run is stuck on none of them, and no write to them fails. -/
theorem check_foretells_run (environment : Environment) (options : Options) (argument : Text)
    (verbose verbose' : Bool) (input : Content) (tree : FileTree)
    (hcheck : options.check = false) (hinput : options.fromInput = false)
    (hpath : options.path? = some argument)
    (hselector : chosenSelector environment options ∈ Catalogue.standard.selectors)
    (hnamed : ∃ path, tree.Names argument path)
    (hfine : ∀ path, tree.Names argument path → ∃ source, tree.file? path = some (.text source) ∧
      OutletWiring.generate source (chosenSelector environment options) ≠ .error .stuck)
    (hwritable : ∀ path, tree.Names argument path → tree.Writable path) :
    Foretold tree environment.order argument (chosenSelector environment options) options.json
      (serveOn environment ⟨verbose', .generate { options with check := true }⟩ input tree)
      (serveOn environment ⟨verbose, .generate options⟩ input tree) := by
  have hwalked := tree.walked_sources environment.order argument
  have hsources : (tree.locate argument).sources environment.order argument ≠ [] := by
    obtain ⟨path, hpath⟩ := hnamed
    intro hnil
    simpa [hnil] using hwalked.names_iff.1 hpath
  obtain ⟨variant, hv⟩ := exists_resolve? hselector
  have hmakes : ∀ source ∈ (tree.locate argument).sources environment.order argument,
      ∃ generated, source.Makes tree variant generated := by
    intro source hsource
    obtain ⟨text, hthere, hstuck⟩ :=
      hfine source.path (hwalked.names_iff.2 (List.mem_map_of_mem hsource))
    exact Source.exists_makes hv hthere hstuck
  obtain ⟨done, hdone, hmakes⟩ := Source.exists_done hmakes
  have hwrites : ∀ file ∈ done, tree.Writable file.1.path := by
    intro file hfile
    refine hwritable _ (hwalked.names_iff.2 ?_)
    rw [← hdone, List.map_map]
    exact List.mem_map_of_mem hfile
  obtain ⟨job, rfl, hjob, hwritten⟩ :=
    serveOn_done verbose input hinput hpath hv hsources hmakes (fun _ => hwrites) hdone
  obtain ⟨checker, hvariant, hchecker, hleaves, hexit, hstdout⟩ :=
    @serveOn_done _ tree environment { options with check := true } _ done verbose' input hinput
      hpath hv hsources hmakes (fun _ => hwrites) hdone
  rw [Job.leaves_of_check hchecker] at hleaves
  refine Job.foretold (hjob.trans hcheck) hv hmakes hdone ⟨hleaves, hexit, ?_⟩ ⟨hwritten.1, ?_, ?_⟩
  · rw [hstdout, hwritten.2.2]
  · rw [hwritten.2.1, hcheck]
    rfl
  · exact hwritten.2.2

/-- A directory beside the one in which the command is started, with a class that is still to be
changed, a Swift file without a class, and a file that is no Swift file. -/
def partlyWired : FileTree where
  files := [
    (["src", "App", "a.swift"], .text crowded), (["src", "App", "a.txt"], .binary [0xff]),
    (["src", "App", "b.swift"], .text "import UIKit\n")]
  workingDirectory := ["home"]

theorem check_foretells_run_partlyWired :
    Foretold partlyWired Path.byName "/src/App" Variant.dev.selector true
      (runOn {} ["generate", "/src/App", "--json", "--check"] (.text []) partlyWired)
      (runOn {} ["generate", "--json", "/src/App"] (.text []) partlyWired) ∧
    (runOn {} ["generate", "/src/App", "--json", "--check"] (.text []) partlyWired).1.exit = 1 := by
  have hrequest : Request.ofArguments ["generate", "--json", "/src/App"] =
      .ok ⟨false, .generate ⟨some "/src/App", false, none, true, false⟩⟩ := by decide
  have hchecking : Request.ofArguments ["generate", "/src/App", "--json", "--check"] =
      .ok ⟨false, .generate ⟨some "/src/App", false, none, true, true⟩⟩ := by decide
  have hselector : chosenSelector {} ⟨some "/src/App", false, none, true, false⟩ ∈
      Catalogue.standard.selectors := by decide
  have hlocate : partlyWired.locate "/src/App" =
      .directory ["src", "App"] (partlyWired.below ["src", "App"]) := rfl
  have hwalk : swiftFiles Path.byName (partlyWired.below ["src", "App"]) =
      ([["a.swift"], ["b.swift"]] : List Path) :=
    swiftFiles_of_sorted (by decide) (by decide)
  have hpaths : ((partlyWired.locate "/src/App").sources Path.byName "/src/App").map Source.path =
      ([["src", "App", "a.swift"], ["src", "App", "b.swift"]] : List Path) := by
    rw [hlocate, Located.sources, hwalk]
    rfl
  have hnames : ∀ path, partlyWired.Names "/src/App" path ↔
      path ∈ ([["src", "App", "a.swift"], ["src", "App", "b.swift"]] : List Path) := by
    intro path
    rw [(partlyWired.walked_sources Path.byName "/src/App").names_iff, hpaths]
  have hclass : partlyWired.Names "/src/App" ["src", "App", "a.swift"] := (hnames _).2 (by decide)
  rw [runOn_of_request (.text []) hrequest, runOn_of_request (.text []) hchecking]
  have hforetold := check_foretells_run {} ⟨some "/src/App", false, none, true, false⟩ "/src/App"
    false false (.text []) partlyWired rfl rfl rfl hselector ⟨_, hclass⟩ (fun path hnamed => by
      rw [hnames, List.mem_pair] at hnamed
      rcases hnamed with rfl | rfl
      · exact ⟨_, rfl, by decide⟩
      · exact ⟨_, rfl, by decide⟩) (fun path _ text => rfl)
  obtain ⟨source, text, report, hthere, hgenerate, -, hdiffers⟩ := hforetold.holds _ hclass
  obtain rfl : crowded = source := Content.text.inj (Option.some.inj hthere)
  have hchanged : ((OutletWiring.generate crowded Variant.dev.selector).toOption.any
      (·.2.changed)) = true := by decide
  rw [show OutletWiring.generate crowded Variant.dev.selector = _ from hgenerate] at hchanged
  exact ⟨hforetold, hforetold.outdated.2 ⟨_, hdiffers.2 hchanged⟩⟩

end OutletWiring.Command
