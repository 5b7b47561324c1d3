import Yql.Config.Search

/-!
# The configuration that holds

Where the configuration comes from is a matter of three tiers, and the first
that applies decides, for better or worse: what a file comes to (`Yields`) may be
an error. In the last tier the search looks into the working directory, then into
the one around it, and so on (`Searched`). It ends, and it ends at the nearest
directory that holds a configuration file, or at the root when there is none.
Nothing else is looked at (`resolve_congr`), so it is enough to read these files
once.
-/

namespace Yql

namespace Directory

def parent? : Directory → Option Directory
  | root => none
  | sub outer _ => some outer

/-- The first directory is the second or one of those around it. -/
inductive Around : Directory → Directory → Prop
  | same (directory : Directory) : Around directory directory
  | beyond {outer next inner : Directory} (hparent : inner.parent? = some next)
      (h : Around outer next) : Around outer inner

theorem length_path_of_parent {inner next : Directory} (hparent : inner.parent? = some next) :
    next.path.length < inner.path.length := by
  cases inner with
  | root => exact nomatch hparent
  | sub outer name =>
      obtain rfl := Option.some.inj hparent
      simp only [path, String.length_append]
      have hslash : "/".length = 1 := rfl
      omega

/-- A directory farther out has a shorter path: no two on the way are at the
same path, and none lies around itself. -/
theorem Around.eq_or_length_lt {outer inner : Directory} (h : Around outer inner) :
    outer = inner ∨ outer.path.length < inner.path.length := by
  induction h with
  | same => exact .inl rfl
  | beyond hparent _ ih =>
      have hlt := length_path_of_parent hparent
      rcases ih with rfl | ih
      · exact .inr hlt
      · exact .inr (Nat.lt_trans ih hlt)

theorem Around.antisymm {first second : Directory} (hfirst : Around first second)
    (hsecond : Around second first) : first = second := by
  rcases hfirst.eq_or_length_lt with heq | hlt
  · exact heq
  · rcases hsecond.eq_or_length_lt with heq | hgt
    · exact heq.symm
    · omega

end Directory

open Directory (Around)

namespace Config

/-! ## What a file comes to -/

/-- What the file at a path comes to: the configuration of its text, or the
error that says why there is none. -/
inductive Yields (files : Files) (path : String) : Except LoadError Loaded → Prop
  | config {content : String} {defaults : Defaults} (htext : files.read path = .ok content)
      (hread : read? content = some defaults) : Yields files path (.ok ⟨some path, defaults⟩)
  | unparsable {content : String} (htext : files.read path = .ok content)
      (hread : read? content = none) :
      Yields files path (.error (.unparsable path (files.complaint content)))
  | unreadable {cause : String} (hcause : files.read path = .error cause) :
      Yields files path (.error (.unreadable path cause))

theorem yields_ofFile (files : Files) (path : String) : Yields files path (ofFile files path) := by
  unfold ofFile
  split
  · rename_i cause hcause
    exact .unreadable hcause
  · rename_i content htext
    split
    · rename_i defaults hread
      exact .config htext hread
    · rename_i hread
      exact .unparsable htext hread

def source? : Except LoadError Loaded → Option String
  | .ok loaded => loaded.path
  | .error (.unreadable path _) => some path
  | .error (.unparsable path _) => some path
  | .error (.noDirectory _) => none

theorem Yields.source?_eq {files : Files} {path : String} {result : Except LoadError Loaded}
    (h : Yields files path result) : source? result = some path := by
  cases h <;> rfl

theorem Yields.ne_builtIn {files : Files} {path : String} {result : Except LoadError Loaded}
    (h : Yields files path result) : result ≠ .ok {} := by
  rintro rfl
  exact nomatch h.source?_eq

theorem Yields.path_unique {files : Files} {first second : String}
    {result : Except LoadError Loaded} (hfirst : Yields files first result)
    (hsecond : Yields files second result) : first = second :=
  Option.some.inj (hfirst.source?_eq.symm.trans hsecond.source?_eq)

/-! ## The search -/

variable {files : Files}

/-- A file of the configuration's name stands in the directory, whether it can
be read or not. -/
def Holds (files : Files) (directory : Directory) : Prop :=
  files.isFile (candidate directory) = true

instance (files : Files) (directory : Directory) : Decidable (Holds files directory) :=
  inferInstanceAs (Decidable (files.isFile (candidate directory) = true))

/-- The search from a directory ends with a result: a file is found there, or it
goes on in the directory around, or there is none around. -/
inductive Searched (files : Files) : Directory → Option String → Prop
  | found {directory : Directory} (h : Holds files directory) :
      Searched files directory (some (candidate directory))
  | outward {directory outer : Directory} {result : Option String}
      (hnot : ¬Holds files directory) (hparent : directory.parent? = some outer)
      (h : Searched files outer result) : Searched files directory result
  | exhausted {directory : Directory} (hnot : ¬Holds files directory)
      (hparent : directory.parent? = none) : Searched files directory none

theorem searched_find? (files : Files) (directory : Directory) :
    Searched files directory (find? files directory) := by
  induction directory with
  | root =>
      unfold find?
      split
      · rename_i hholds
        exact .found hholds
      · rename_i hnot
        exact .exhausted hnot rfl
  | sub outer name ih =>
      unfold find?
      split
      · rename_i hholds
        exact .found hholds
      · rename_i hnot
        exact .outward hnot rfl ih

/-- The nearest directory that holds a configuration file: every other one that
holds one lies around it. -/
structure Nearest (files : Files) (here directory : Directory) : Prop where
  around : Around directory here
  holds : Holds files directory
  nearest : ∀ other, Around other here → Holds files other → Around other directory

theorem around_cases {outer inner : Directory} (h : Around outer inner) :
    outer = inner ∨ ∃ next, inner.parent? = some next ∧ Around outer next := by
  cases h with
  | same => exact .inl rfl
  | beyond hparent h => exact .inr ⟨_, hparent, h⟩

theorem Nearest.outward {here outer directory : Directory} (hnot : ¬Holds files here)
    (hparent : here.parent? = some outer) (h : Nearest files outer directory) :
    Nearest files here directory where
  around := .beyond hparent h.around
  holds := h.holds
  nearest := by
    intro other haround hholds
    rcases around_cases haround with rfl | ⟨next, hnext, haround⟩
    · exact absurd hholds hnot
    · obtain rfl := Option.some.inj (hparent.symm.trans hnext)
      exact h.nearest other haround hholds

/-- A search that finds a file finds that of the nearest directory. -/
theorem Searched.exists_nearest {here : Directory} {result : Option String}
    (h : Searched files here result) {path : String} (hpath : result = some path) :
    ∃ directory, Nearest files here directory ∧ candidate directory = path := by
  induction h with
  | found hholds =>
      obtain rfl := Option.some.inj hpath
      exact ⟨_, ⟨.same _, hholds, fun other haround _ => haround⟩, rfl⟩
  | outward hnot hparent _ ih =>
      obtain ⟨directory, hnearest, hcandidate⟩ := ih hpath
      exact ⟨directory, hnearest.outward hnot hparent, hcandidate⟩
  | exhausted => exact nomatch hpath

theorem Searched.not_holds {here : Directory} {result : Option String}
    (h : Searched files here result) (hnone : result = none) :
    ∀ directory, Around directory here → ¬Holds files directory := by
  induction h with
  | found => exact nomatch hnone
  | outward hnot hparent _ ih =>
      intro directory haround
      rcases around_cases haround with rfl | ⟨next, hnext, haround⟩
      · exact hnot
      · obtain rfl := Option.some.inj (hparent.symm.trans hnext)
        exact ih hnone directory haround
  | exhausted hnot hparent =>
      intro directory haround
      rcases around_cases haround with rfl | ⟨next, hnext, -⟩
      · exact hnot
      · rw [hparent] at hnext
        exact nomatch hnext

theorem Nearest.unique {here first second : Directory} (hfirst : Nearest files here first)
    (hsecond : Nearest files here second) : first = second :=
  (hsecond.nearest first hfirst.around hfirst.holds).antisymm
    (hfirst.nearest second hsecond.around hsecond.holds)

/-- The search finds the file of the nearest directory, or there is no file on
the way. -/
theorem find?_cases (files : Files) (here : Directory) :
    (∃ directory, Nearest files here directory ∧
        find? files here = some (candidate directory)) ∨
      find? files here = none ∧ ∀ directory, Around directory here → ¬Holds files directory := by
  have hsearched := searched_find? files here
  cases hfound : find? files here with
  | none => exact .inr ⟨rfl, hsearched.not_holds hfound⟩
  | some path =>
      obtain ⟨directory, hnearest, rfl⟩ := hsearched.exists_nearest hfound
      exact .inl ⟨directory, hnearest, rfl⟩

theorem Nearest.find?_eq {here directory : Directory} (h : Nearest files here directory) :
    find? files here = some (candidate directory) := by
  rcases find?_cases files here with ⟨found, hnearest, hfound⟩ | ⟨-, hnone⟩
  · rw [hfound, h.unique hnearest]
  · exact absurd h.holds (hnone directory h.around)

/-- No directory farther out has its file at the same path. -/
theorem candidate_ne_of_around {outer inner : Directory} (h : Around outer inner)
    (hne : outer ≠ inner) : candidate outer ≠ candidate inner := by
  intro heq
  rcases h.eq_or_length_lt with rfl | hlt
  · exact hne rfl
  · have hlength := congrArg String.length heq
    simp only [candidate, String.length_append] at hlength
    omega

/-! ## The three tiers -/

theorem resolve_named (files : Files) (place : Except String Directory) {path : String}
    (hpath : path ≠ "") : resolve files place none (some path) = ofFile files path := by
  unfold resolve
  simp only [Option.filter, hpath, ne_eq, not_false_eq_true, decide_true, if_true]

section

variable {named : Option String} (hnamed : named = none ∨ named = some "")

include hnamed

/-- Without a file asked for or named, the search decides. -/
theorem resolve_searched (files : Files) (here : Directory) :
    resolve files (.ok here) none named
      = match find? files here with
        | some path => ofFile files path
        | none => .ok {} := by
  rcases hnamed with rfl | rfl
  · rfl
  · rfl

/-- Then nothing can be done without a working directory to search from. -/
theorem resolve_noDirectory (files : Files) (cause : String) :
    resolve files (.error cause) none named = .error (.noDirectory cause) := by
  rcases hnamed with rfl | rfl
  · rfl
  · rfl

end

/-- **The first tier that applies decides.** The file that is asked for gives the
configuration or an error, whatever else there is, and so does the one that the
environment names when none is asked for and the name is not empty. Otherwise the
search comes to its end, and if there is a configuration file in the working
directory or one around it, the file of the nearest such directory gives the
configuration or an error; the file of one farther out never does. The built-in
defaults hold exactly when no directory on the way has a configuration file. -/
theorem resolve_tiers (files : Files) (here : Directory) :
    (∀ place path named, Yields files path (resolve files place (some path) named)) ∧
    (∀ place path, path ≠ "" → Yields files path (resolve files place none (some path))) ∧
    ∀ named, named = none ∨ named = some "" →
      Searched files here (find? files here) ∧
      (∀ holder, Around holder here → Holds files holder →
        ∃ directory, Nearest files here directory) ∧
      (∀ directory, Nearest files here directory →
        Yields files (candidate directory) (resolve files (.ok here) none named) ∧
        ∀ farther, Around farther directory → farther ≠ directory →
          ¬Yields files (candidate farther) (resolve files (.ok here) none named)) ∧
      (resolve files (.ok here) none named = .ok {} ↔
        ∀ directory, Around directory here → ¬Holds files directory) := by
  refine ⟨?_, ?_, ?_⟩
  · intro place path named
    exact yields_ofFile files path
  · intro place path hpath
    rw [resolve_named files place hpath]
    exact yields_ofFile files path
  intro named hnamed
  rw [resolve_searched hnamed files here]
  refine ⟨searched_find? files here, ?_, ?_, ?_⟩
  · intro holder haround hholds
    rcases find?_cases files here with ⟨directory, hnearest, -⟩ | ⟨-, hnone⟩
    · exact ⟨directory, hnearest⟩
    · exact absurd hholds (hnone holder haround)
  · intro directory hnearest
    rw [hnearest.find?_eq]
    have hyields := yields_ofFile files (candidate directory)
    refine ⟨hyields, ?_⟩
    intro farther haround hne hfarther
    exact candidate_ne_of_around haround hne (hfarther.path_unique hyields)
  · rcases find?_cases files here with ⟨directory, hnearest, hfound⟩ | ⟨hfound, hnone⟩
    · rw [hfound]
      constructor
      · intro hbuiltIn
        exact absurd hbuiltIn (yields_ofFile files (candidate directory)).ne_builtIn
      · intro hnone
        exact absurd hnearest.holds (hnone directory hnearest.around)
    · rw [hfound]
      exact ⟨fun _ => hnone, fun _ => rfl⟩

/-- Files with a directory of the configuration's name in the working directory,
a file that cannot be read in the one around it, and a good file at the root. -/
def shadowed : Files where
  isFile path := path ∈ ["/shop/.vespa-yql.toml", "/.vespa-yql.toml", "team.toml"]
  read path :=
    if path = "/shop/api/.vespa-yql.toml" then .error "Is a directory (os error 21)"
    else if path = "/shop/.vespa-yql.toml" then .error "Permission denied (os error 13)"
    else if path = "/.vespa-yql.toml" then .ok "[defaults]\nhits = 5\n"
    else if path = "team.toml" then .ok "[defaults]\nranking = 'bm25'\n"
    else .error "No such file or directory (os error 2)"
  complaint _ := "TOML parse error"

theorem nearest_shadowed :
    Nearest shadowed (.sub (.sub .root "shop") "api") (.sub .root "shop") where
  around := .beyond rfl (.same _)
  holds := by decide +kernel
  nearest := by
    intro other haround hholds
    rcases around_cases haround with rfl | ⟨next, hnext, haround⟩
    · exact absurd hholds (by decide +kernel)
    · obtain rfl := Option.some.inj hnext
      exact haround

def bare : Files where
  isFile _ := false
  read _ := .error "No such file or directory (os error 2)"
  complaint _ := "TOML parse error"

theorem resolve_tiers_shadowed :
    Yields shadowed "team.toml" (resolve shadowed (.ok (.sub (.sub .root "shop") "api"))
        (some "team.toml") (some "no.toml")) ∧
      Yields shadowed "no.toml"
        (resolve shadowed (.ok (.sub (.sub .root "shop") "api")) none (some "no.toml")) ∧
      (∃ directory, Nearest shadowed (.sub (.sub .root "shop") "api") directory) ∧
      Yields shadowed "/shop/.vespa-yql.toml"
        (resolve shadowed (.ok (.sub (.sub .root "shop") "api")) none (some "")) ∧
      ¬Yields shadowed "/.vespa-yql.toml"
        (resolve shadowed (.ok (.sub (.sub .root "shop") "api")) none (some "")) ∧
      resolve bare (.ok (.sub .root "srv")) none none = .ok {} := by
  obtain ⟨hasked, hnamed, hsearched⟩ := resolve_tiers shadowed (.sub (.sub .root "shop") "api")
  obtain ⟨-, hexists, hnearest, -⟩ := hsearched (some "") (.inr rfl)
  obtain ⟨hyields, hfarther⟩ := hnearest (.sub .root "shop") nearest_shadowed
  refine ⟨hasked _ "team.toml" (some "no.toml"), hnamed _ "no.toml" (by decide), ?_, hyields,
    ?_, ?_⟩
  · exact hexists (.sub .root "shop") nearest_shadowed.around nearest_shadowed.holds
  · exact hfarther .root (.beyond rfl (.same _)) nofun
  · obtain ⟨-, -, hsearched⟩ := resolve_tiers bare (.sub .root "srv")
    obtain ⟨-, -, -, hbuiltIn⟩ := hsearched none (.inl rfl)
    refine hbuiltIn.mpr ?_
    intro directory _
    exact Bool.false_ne_true

/-! ## What is looked at -/

structure SameAt (files others : Files) (path : String) : Prop where
  isFile : others.isFile path = files.isFile path
  read : others.read path = files.read path

section

variable {others : Files}

theorem candidate_mem_candidatesFrom (here : Directory) : candidate here ∈ candidatesFrom here := by
  cases here <;> exact List.mem_cons_self

theorem find?_congr {here : Directory}
    (h : ∀ path ∈ candidatesFrom here, SameAt files others path) :
    find? others here = find? files here := by
  have hhere := h _ (candidate_mem_candidatesFrom here)
  induction here with
  | root =>
      unfold find?
      rw [hhere.isFile]
  | sub outer name ih =>
      have houter (path : String) (hpath : path ∈ candidatesFrom outer) :
          SameAt files others path :=
        h path (List.mem_cons_of_mem _ hpath)
      unfold find?
      dsimp only
      rw [hhere.isFile, ih houter (houter _ (candidate_mem_candidatesFrom outer))]

theorem Searched.mem_candidatesFrom {here : Directory} {result : Option String}
    (h : Searched files here result) {path : String} (hpath : result = some path) :
    path ∈ candidatesFrom here := by
  induction h with
  | found =>
      obtain rfl := Option.some.inj hpath
      exact candidate_mem_candidatesFrom _
  | @outward directory _ _ _ hparent _ ih =>
      cases directory with
      | root => exact nomatch hparent
      | sub outer name =>
          obtain rfl := Option.some.inj hparent
          exact List.mem_cons_of_mem _ (ih hpath)
  | exhausted => exact nomatch hpath

theorem ofFile_congr (hcomplaint : others.complaint = files.complaint) {path : String}
    (h : SameAt files others path) : ofFile others path = ofFile files path := by
  unfold ofFile
  rw [h.read, hcomplaint]

/-- **Only the candidates are looked at.** The configuration is the same over
files that are the same at every path that it may come from. -/
theorem resolve_congr {place : Except String Directory} {asked named : Option String}
    (hcomplaint : others.complaint = files.complaint)
    (h : ∀ path ∈ candidates place asked named, SameAt files others path) :
    resolve others place asked named = resolve files place asked named := by
  have hasked (path : String) (hpath : asked = some path) : SameAt files others path :=
    h path (by simp [candidates, hpath])
  have hnamed (path : String) (hpath : named = some path) : SameAt files others path :=
    h path (by simp [candidates, hpath])
  have hsearched (here : Directory) (hplace : place = .ok here) (path : String)
      (hpath : path ∈ candidatesFrom here) : SameAt files others path :=
    h path (by simp [candidates, hplace, hpath])
  cases asked with
  | some path => exact ofFile_congr hcomplaint (hasked path rfl)
  | none =>
      unfold resolve
      dsimp only
      cases hfilled : named.filter (· ≠ "") with
      | some path =>
          exact ofFile_congr hcomplaint (hnamed path (Option.filter_eq_some_iff.mp hfilled).1)
      | none =>
          cases place with
          | error cause => rfl
          | ok here =>
              dsimp only
              rw [find?_congr (hsearched here rfl)]
              cases hfound : find? files here with
              | none => rfl
              | some path =>
                  have hpath := (searched_find? files here).mem_candidatesFrom hfound
                  exact ofFile_congr hcomplaint (hsearched here rfl path hpath)

end

end Config

end Yql
