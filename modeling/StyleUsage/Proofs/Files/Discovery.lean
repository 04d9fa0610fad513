import Mathlib
import StyleUsage.Files.Source
import StyleUsage.Proofs.Lists.Attempts
import StyleUsage.Proofs.Lists.Repetitions
import StyleUsage.Proofs.Usage.Feeding

/-!
# Discovery of files

Every file that a pattern stands for is found once, under its normal path. What further patterns add
comes after what is found already, so that neither their order nor their repetition matters for
which files are found and which classes their markup uses.
-/

namespace StyleUsage.Files

open Session Usage

section
variable {tree : Tree} {patterns others first second : List String} {pattern : String}
  {path : Path} {paths : List Path} {source : MarkupSource} {sources : List MarkupSource}
  {maxWorkers : Int} {failure : Failure}

/-! ## Files that patterns stand for -/

/-- A pattern stands for a file if it expands to a text that has the path of the file. -/
def StandsFor (tree : Tree) (pattern : String) (path : Path) : Prop :=
  tree.isFile path.text.toList = true ∧
    ∃ text ∈ expand tree false pattern.toList, Path.ofText (String.ofList text) = path

theorem mem_matchedFiles : path ∈ matchedFiles tree pattern ↔ StandsFor tree pattern path := by
  simp only [matchedFiles, List.mem_filter, List.mem_map, Text.mem_sorted, StandsFor]
  constructor
  · rintro ⟨⟨_, ⟨text, htext, rfl⟩, rfl⟩, hfile⟩
    exact ⟨hfile, text, htext, rfl⟩
  · rintro ⟨hfile, text, htext, rfl⟩
    exact ⟨⟨_, ⟨text, htext, rfl⟩, rfl⟩, hfile⟩

theorem discover_eq_ok_iff : discover tree patterns = .ok paths ↔
    (∀ pattern ∈ patterns, isExpandable pattern.toList = true) ∧
      (patterns.flatMap (matchedFiles tree)).eraseDups = paths := by
  unfold discover
  by_cases hall : ∀ pattern ∈ patterns, isExpandable pattern.toList = true
  · rw [if_pos (by simpa using hall), Except.ok.injEq, and_iff_right hall]
  · rw [if_neg (by simpa using hall)]
    simp [hall]

theorem mem_of_discover (h : discover tree patterns = .ok paths) :
    path ∈ paths ↔ ∃ pattern ∈ patterns, StandsFor tree pattern path := by
  obtain ⟨-, rfl⟩ := discover_eq_ok_iff.1 h
  simp only [List.mem_eraseDups, List.mem_flatMap, mem_matchedFiles]

theorem nodup_of_discover (h : discover tree patterns = .ok paths) : paths.Nodup := by
  obtain ⟨-, rfl⟩ := discover_eq_ok_iff.1 h
  exact nodup_eraseDups _

/-- Further patterns add the files that are not found yet, in their order. -/
theorem discover_append (tree : Tree) (first second : List String) :
    discover tree (first ++ second) = do
      let found ← discover tree first
      let more ← discover tree second
      return found ++ more.filter (· ∉ found) := by
  unfold discover
  cases hfirst : first.all (isExpandable ·.toList) <;>
    cases hsecond : second.all (isExpandable ·.toList) <;>
    simp [hfirst, hsecond, eraseDups_append_filter, bind, Except.bind, pure, Except.pure]

/-- What stands before the last slash of a text is part of the text. -/
theorem subset_splitLast (s : List Char) : (splitLast s).1 ⊆ s := by
  have hbefore (n : Nat) : s.take n ⊆ s := (List.take_sublist n s).subset
  have hbare (n : Nat) : ((s.take n).reverse.dropWhile (· = '/')).reverse ⊆ s := by
    refine List.Subset.trans ?_ (hbefore n)
    simpa using ((List.dropWhile_sublist (l := (s.take n).reverse) (· = '/')).subset)
  unfold splitLast
  simp only
  split
  case isTrue => exact hbefore _
  case isFalse => exact hbare _

/-- A pattern without a NUL can be expanded. -/
theorem isExpandable_of_notMem {s : List Char} (h : '\x00' ∉ s) : isExpandable s = true := by
  have hdirectory : '\x00' ∉ (splitLast (s.takeWhile fun c => !hasWildcard [c])).1 := fun hmem =>
    h ((List.takeWhile_sublist _).subset (subset_splitLast _ hmem))
  rw [isExpandable]
  simp [hdirectory]

/-- The same patterns in another order, or repeated, find the same files. -/
theorem exists_discover (h : discover tree patterns = .ok paths)
    (hsame : ∀ pattern, pattern ∈ patterns ↔ pattern ∈ others) :
    ∃ paths', discover tree others = .ok paths' ∧ paths'.Perm paths := by
  obtain ⟨hall, -⟩ := discover_eq_ok_iff.1 h
  have hothers : discover tree others = .ok (others.flatMap (matchedFiles tree)).eraseDups :=
    discover_eq_ok_iff.2 ⟨fun pattern hpattern => hall pattern ((hsame pattern).2 hpattern), rfl⟩
  refine ⟨_, hothers, ?_⟩
  rw [List.perm_ext_iff_of_nodup (nodup_of_discover hothers) (nodup_of_discover h)]
  intro path
  simp only [mem_of_discover hothers, mem_of_discover h, hsame]

/-! ## Room for expanding patterns -/

theorem expansionFailure?_eq_none_iff : expansionFailure? tree pattern = none ↔
    expansionDepth tree false pattern.toList ≤ deepestExpansion ∧
      isExpandable pattern.toList = true := by
  unfold expansionFailure?
  by_cases hdeep : deepestExpansion < expansionDepth tree false pattern.toList
  · simp [hdeep, Nat.not_le.2 hdeep]
  · cases hpattern : isExpandable pattern.toList <;> simp [hdeep, Nat.not_lt.1 hdeep]

/-- A search discovers what there is, if there is room for expanding each of the patterns. -/
theorem search_eq_ok_iff : search tree patterns = .ok paths ↔
    (∀ pattern ∈ patterns, expansionDepth tree false pattern.toList ≤ deepestExpansion) ∧
      discover tree patterns = .ok paths := by
  unfold search
  cases hfirst : patterns.findSome? (expansionFailure? tree) with
  | some e =>
      obtain ⟨pattern, hpattern, hfailure⟩ := List.exists_of_findSome?_eq_some hfirst
      constructor
      · exact fun h => by cases h
      · rintro ⟨hroom, hdiscover⟩
        have hnone := expansionFailure?_eq_none_iff.2
          ⟨hroom pattern hpattern, (discover_eq_ok_iff.1 hdiscover).1 pattern hpattern⟩
        rw [hnone] at hfailure
        cases hfailure
  | none =>
      have hroom : ∀ pattern ∈ patterns,
          expansionDepth tree false pattern.toList ≤ deepestExpansion := fun pattern hpattern =>
        (expansionFailure?_eq_none_iff.1 (List.findSome?_eq_none_iff.1 hfirst pattern hpattern)).1
      exact (and_iff_right hroom).symm

/-! ## What is read of them -/

theorem readSources_eq_ok_iff : readSources tree paths maxWorkers = .ok sources ↔
    paths.mapM (readSource tree) = .ok sources ∧ (paths = [] ∨ 0 < maxWorkers) := by
  unfold readSources
  by_cases hpaths : paths = []
  · simp [hpaths, pure, Except.pure]
  · by_cases hworkers : maxWorkers ≤ 0
    · simp [hpaths, hworkers, Int.not_lt.2 hworkers]
    · simp [hpaths, hworkers, Int.not_le.1 hworkers]

/-- A loader that fails at nothing has read every file that the patterns stand for. -/
theorem load_eq (h : (load tree patterns maxWorkers).failure = none) :
    ∃ paths, search tree patterns = .ok paths ∧
      readSources tree paths maxWorkers = .ok (load tree patterns maxWorkers).sources := by
  unfold load at h ⊢
  cases hpaths : search tree patterns with
  | error e => simp [hpaths] at h
  | ok paths =>
      cases hsources : readSources tree paths maxWorkers with
      | error e => simp [hpaths, hsources] at h
      | ok sources => exact ⟨paths, rfl, by simp [hsources]⟩

theorem load_of_readSources (hpaths : search tree patterns = .ok paths)
    (hsources : readSources tree paths maxWorkers = .ok sources) :
    (load tree patterns maxWorkers).failure = none ∧
      (load tree patterns maxWorkers).sources = sources := by
  simp [load, hpaths, hsources]

/-- Readable files are read whatever the order in which they are found. -/
theorem exists_load (h : (load tree patterns maxWorkers).failure = none)
    (hsame : ∀ pattern, pattern ∈ patterns ↔ pattern ∈ others) :
    (load tree others maxWorkers).failure = none ∧
      (load tree others maxWorkers).sources.Perm (load tree patterns maxWorkers).sources := by
  obtain ⟨paths, hfound, hsources⟩ := load_eq h
  obtain ⟨hroom, hpaths⟩ := search_eq_ok_iff.1 hfound
  obtain ⟨paths', hpaths', hperm⟩ := exists_discover hpaths hsame
  have hfound' : search tree others = .ok paths' := search_eq_ok_iff.2
    ⟨fun pattern hpattern => hroom pattern ((hsame pattern).2 hpattern), hpaths'⟩
  obtain ⟨hread, hworkers⟩ := readSources_eq_ok_iff.1 hsources
  obtain ⟨sources', hread', hsame'⟩ := List.perm_comp_forall₂ hperm (mapM_eq_ok_iff.1 hread)
  have hsources' : readSources tree paths' maxWorkers = .ok sources' := by
    refine readSources_eq_ok_iff.2 ⟨mapM_eq_ok_iff.2 hread', hworkers.imp_left ?_⟩
    rintro rfl
    exact hperm.eq_nil
  obtain ⟨hfailure, hloaded⟩ := load_of_readSources hfound' hsources'
  exact ⟨hfailure, hloaded ▸ hsame'⟩

/-- Texts that an accumulator takes are taken in any order, and it holds the same names in the
end. -/
theorem exists_feedAll_of_perm {a found : Accumulator} {texts texts' : List String}
    (hopen : a.isFrozen = false) (h : a.feedAll texts = .ok found) (hperm : texts'.Perm texts) :
    ∃ found', a.feedAll texts' = .ok found' ∧ ∀ name, name ∈ found'.used ↔ name ∈ found.used := by
  have hread : Accumulator.firstRejection? texts' = none := by
    have hall := Accumulator.feedAll_of_firstRejection? hopen texts
    cases hfirst : Accumulator.firstRejection? texts with
    | some rejection =>
        rw [hfirst, h] at hall
        cases hall
    | none =>
        simp only [Accumulator.firstRejection?, List.findSome?_eq_none_iff] at hfirst ⊢
        exact fun text htext => hfirst text (hperm.mem_iff.1 htext)
  have hall := Accumulator.feedAll_of_firstRejection? hopen texts'
  rw [hread] at hall
  obtain ⟨found', hfound'⟩ := hall
  refine ⟨found', hfound', fun name => ?_⟩
  rw [(Accumulator.feedAll_eq_ok hfound').2.2, (Accumulator.feedAll_eq_ok h).2.2]
  simp only [hperm.mem_iff]

/-- Discovery finds exactly the files that some pattern stands for, each of them once, and fails
only at a pattern with a NUL. Further patterns add what is not found yet, behind the rest. A search
finds the same, as long as there is room for expanding each of the patterns. So the same patterns in
another order, or repeated, find the same files, and if these can be read and their markup is
accepted, the used classes are the same, too. -/
theorem discovery_loses_and_repeats_nothing (tree : Tree) :
    (∀ patterns paths, discover tree patterns = .ok paths →
      paths.Nodup ∧ ∀ path, path ∈ paths ↔ tree.isFile path.text.toList = true ∧
        ∃ pattern ∈ patterns, ∃ text ∈ expand tree false pattern.toList,
          Path.ofText (String.ofList text) = path) ∧
    (∀ patterns, (∀ pattern ∈ patterns, '\x00' ∉ pattern.toList) →
      ∃ paths, discover tree patterns = .ok paths) ∧
    (∀ first second, discover tree (first ++ second) = do
      let found ← discover tree first
      let more ← discover tree second
      return found ++ more.filter (· ∉ found)) ∧
    (∀ patterns paths, search tree patterns = .ok paths ↔
      (∀ pattern ∈ patterns, expansionDepth tree false pattern.toList ≤ deepestExpansion) ∧
        discover tree patterns = .ok paths) ∧
    ∀ patterns others, (∀ pattern, pattern ∈ patterns ↔ pattern ∈ others) →
      (∀ paths, discover tree patterns = .ok paths →
        ∃ paths', discover tree others = .ok paths' ∧ paths'.Perm paths) ∧
      ∀ maxWorkers directives found, (load tree patterns maxWorkers).failure = none →
        (Accumulator.start (collectors directives)).feedAll
          ((load tree patterns maxWorkers).sources.map (·.text)) = .ok found →
        (load tree others maxWorkers).failure = none ∧
        ∃ found', (Accumulator.start (collectors directives)).feedAll
            ((load tree others maxWorkers).sources.map (·.text)) = .ok found' ∧
          ∀ name, name ∈ found'.freeze.used ↔ name ∈ found.freeze.used := by
  refine ⟨fun patterns paths h => ⟨nodup_of_discover h, fun path => ?_⟩, fun patterns h => ?_,
    discover_append tree, fun patterns paths => search_eq_ok_iff,
    fun patterns others hsame => ⟨fun paths h => exists_discover h hsame,
      fun maxWorkers directives found hload hfound => ?_⟩⟩
  · rw [mem_of_discover h]
    constructor
    · rintro ⟨pattern, hpattern, hfile, htext⟩
      exact ⟨hfile, pattern, hpattern, htext⟩
    · rintro ⟨hfile, pattern, hpattern, htext⟩
      exact ⟨pattern, hpattern, hfile, htext⟩
  · exact ⟨_, discover_eq_ok_iff.2
      ⟨fun pattern hpattern => isExpandable_of_notMem (h pattern hpattern), rfl⟩⟩
  · obtain ⟨hload', hperm⟩ := exists_load hload hsame
    obtain ⟨found', hfound', hused⟩ := exists_feedAll_of_perm rfl hfound (hperm.map _)
    exact ⟨hload', found', hfound', hused⟩

/-! ### A sample of two files -/

/-- The bytes of a text in ASCII. -/
def asciiBytes (text : String) : List UInt8 :=
  text.toList.map fun c => c.toNat.toUInt8

/-- A page in the working directory and another one below it. -/
def sampleTree : Tree :=
  ⟨["w"], [(["w"], .directory), (["w", "a.html"], .file (asciiBytes "<p class='x'>") none),
    (["w", "d"], .directory), (["w", "d", "b.html"], .file (asciiBytes "<p class='y'>") none)]⟩

def sampleFiles : List Path :=
  [⟨.workingDirectory, ["a.html"]⟩, ⟨.workingDirectory, ["d", "b.html"]⟩]

theorem discovery_loses_and_repeats_nothing_sample :
    discover sampleTree ["./*.html", "**/*.html", "d"] = .ok sampleFiles ∧ sampleFiles.Nodup ∧
      (∀ pattern, pattern ∈ ["./*.html", "**/*.html", "d"] ↔
        pattern ∈ ["d", "**/*.html", "**/*.html", "./*.html"]) ∧
      (∃ paths, discover sampleTree ["d", "**/*.html", "**/*.html", "./*.html"] = .ok paths ∧
        paths.Perm sampleFiles) ∧
      ∃ found, (Accumulator.start (collectors true)).feedAll
          ((load sampleTree ["d", "**/*.html", "**/*.html", "./*.html"] 8).sources.map (·.text)) =
            .ok found ∧
        ∀ name, name ∈ found.freeze.used ↔ name ∈ ["y", "x"] := by
  have hdiscover : discover sampleTree ["./*.html", "**/*.html", "d"] = .ok sampleFiles := by cbv
  have hsame (pattern : String) : pattern ∈ ["./*.html", "**/*.html", "d"] ↔
      pattern ∈ ["d", "**/*.html", "**/*.html", "./*.html"] := by
    simp only [List.mem_cons, List.not_mem_nil, or_false]
    tauto
  have hload : (load sampleTree ["./*.html", "**/*.html", "d"] 8).failure = none := by cbv
  have hsources : (load sampleTree ["./*.html", "**/*.html", "d"] 8).sources =
      [⟨"a.html", "<p class='x'>"⟩, ⟨"d/b.html", "<p class='y'>"⟩] := by cbv
  have hfound : (Accumulator.start (collectors true)).feedAll
      ((load sampleTree ["./*.html", "**/*.html", "d"] 8).sources.map (·.text)) =
        .ok ⟨collectors true, ["y", "x"], false⟩ := by
    rw [hsources]
    decide +kernel
  obtain ⟨hfiles, -, -, -, hagain⟩ := discovery_loses_and_repeats_nothing sampleTree
  obtain ⟨hpaths, hused⟩ := hagain _ _ hsame
  obtain ⟨-, found, hfound', hnames⟩ := hused 8 true _ hload hfound
  exact ⟨hdiscover, (hfiles _ _ hdiscover).1, hsame, hpaths _ hdiscover, found, hfound', hnames⟩

end

end StyleUsage.Files
