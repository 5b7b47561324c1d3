import Yql.Proofs.Condition.Contained
import Yql.Proofs.Condition.Prune
import Yql.Proofs.Text.TokenRow

/-!
# What a label can do to a rank clause

A label stands between single quotes as it is: unlike the texts of values it is
not escaped. What the reader of a rank clause takes for the end of a label is a
quote with the rest of the search behind it. As long as no label holds that, the
text of a clause tells its searches (`yql_eq_iff_searches_eq`). A label that does can end
its search early and begin another one, so that one search is written like two
(`yql_forged`).
-/

namespace Yql

/-! ## Texts that show where they end -/

namespace Text

/-- Characters of one class, up to a character that is not of it, are determined
by the text they stand in front of. -/
theorem run_append_inj {p : Char → Bool} {x y s t : List Char} {c d : Char}
    (hx : ∀ e ∈ x, p e = true) (hy : ∀ e ∈ y, p e = true) (hc : p c = false) (hd : p d = false)
    (h : x ++ c :: s = y ++ d :: t) : x = y ∧ c = d ∧ s = t := by
  have hrun := congrArg (List.takeWhile p) h
  rw [List.takeWhile_append_of_pos hx, List.takeWhile_append_of_pos hy,
    List.takeWhile_cons_of_neg (by simp [hc]), List.takeWhile_cons_of_neg (by simp [hd]),
    List.append_nil, List.append_nil] at hrun
  subst hrun
  obtain ⟨rfl, rfl⟩ := List.cons.inj (List.append_cancel_left h)
  exact ⟨rfl, rfl, rfl⟩

/-- What stands where another text has a mark, and has the mark behind it, begins
with the mark itself: the two cannot overlap, for the first character of the mark
is nowhere else in it. -/
theorem mark_begins {first : Char} {mark m s t : List Char} (hfirst : first ∉ mark) (hm : m ≠ [])
    (h : first :: mark ++ s = m ++ (first :: mark ++ t)) : first :: mark <+: m := by
  rcases List.append_eq_append_iff.mp h with ⟨rest, rfl, -⟩ | ⟨rest, hmark, hrest⟩
  · exact List.prefix_append _ rest
  · obtain ⟨c, m, rfl⟩ := List.exists_cons_of_ne_nil hm
    obtain ⟨rfl, rfl⟩ := List.cons.inj hmark
    cases rest with
    | nil => simp
    | cons d rest =>
        obtain ⟨rfl, -⟩ := List.cons.inj hrest
        exact absurd (by simp) hfirst

theorem mark_append_inj {first : Char} {mark x y s t : List Char} (hfirst : first ∉ mark)
    (hx : ¬ first :: mark <:+: x) (hy : ¬ first :: mark <:+: y)
    (h : x ++ (first :: mark ++ s) = y ++ (first :: mark ++ t)) : x = y ∧ s = t := by
  have hno {x m : List Char} (hm : ¬ first :: mark <:+: x ++ m) : ¬ first :: mark <+: m := by
    rintro ⟨rest, rfl⟩
    exact hm ⟨x, rest, by rw [List.append_assoc]⟩
  rcases List.append_eq_append_iff.mp h with ⟨m, rfl, hm⟩ | ⟨m, rfl, hm⟩
  · obtain rfl : m = [] := by_contra fun hne => hno hy (mark_begins hfirst hne hm)
    exact ⟨(List.append_nil x).symm, List.append_cancel_left hm⟩
  · obtain rfl : m = [] := by_contra fun hne => hno hx (mark_begins hfirst hne hm)
    exact ⟨List.append_nil y, (List.append_cancel_left hm).symm⟩

end Text

/-! ## Searches with labels -/

namespace Condition

/-- A search for nearest neighbours about which nothing is said but labels, the
last of which counts. -/
inductive Labelled : Condition → Prop
  | intro {field vector : String} (targetHits : UInt32) (labels : List String)
      (hfield : Wordlike field) (hvector : Wordlike vector) :
      Labelled (Field.nearestTo ⟨field⟩ vector targetHits (labels.map .label))

def label? : Condition → Option String
  | nearest _ _ _ settings => settings.label
  | _ => none

/-- What stands between the annotations of a search and its arguments. -/
def call : List Char :=
  '\x7d' :: "nearestNeighbor(".toList

/-- Whether a quote in the text has the end of the annotations behind it. -/
def BreaksOut (label : String) : Prop :=
  '\'' :: call <:+: label.toList

theorem foldl_annotated_label (labels : List String) (first : Option String) :
    ∃ last, (labels.map .label).foldl NearestSettings.annotated ⟨first, none, none⟩
      = ⟨last, none, none⟩ := by
  induction labels generalizing first with
  | nil => exact ⟨first, rfl⟩
  | cons label rest ih => exact ih (some label)

theorem Labelled.cases {condition : Condition} (h : condition.Labelled) :
    ∃ field vector targetHits label, Wordlike field ∧ Wordlike vector
      ∧ condition = nearest field vector targetHits ⟨label, none, none⟩ := by
  obtain ⟨targetHits, labels, hfield, hvector⟩ := h
  obtain ⟨last, hlast⟩ := foldl_annotated_label labels none
  exact ⟨_, _, targetHits, last, hfield, hvector, congrArg (nearest _ _ targetHits) hlast⟩

theorem Labelled.yql_ne_empty {condition : Condition} (h : condition.Labelled) :
    condition.yql ≠ "" := by
  obtain ⟨field, vector, targetHits, label, -, -, rfl⟩ := h.cases
  exact nearestText_ne_empty field vector targetHits _

/-! ## The text of a search -/

def labelChars : Option String → List Char
  | none => []
  | some label => ',' :: ("label:'".toList ++ (label.toList ++ ['\'']))

/-- The arguments of a search, with what closes it. -/
def argumentChars (field vector : String) : List Char :=
  field.toList ++ ',' :: ' ' :: (vector.toList ++ [')', ')'])

theorem toList_targetHits (targetHits : UInt32) :
    (toString targetHits.toNat).toList = Nat.toDigits 10 targetHits.toNat :=
  Nat.toList_repr

theorem toList_nearestText_label (field vector : String) (targetHits : UInt32)
    (label : Option String) :
    (nearestText field vector targetHits ⟨label, none, none⟩).toList
      = "(\x7b".toList ++ ("targetHits:".toList ++ (Nat.toDigits 10 targetHits.toNat
        ++ (labelChars label ++ (call ++ argumentChars field vector)))) := by
  have hcall : "\x7dnearestNeighbor(".toList = '\x7d' :: "nearestNeighbor(".toList := rfl
  have hcomma : ",".toList = [','] := rfl
  have hblank : ", ".toList = [',', ' '] := rfl
  have hquote : "'".toList = ['\''] := rfl
  have hend : "))".toList = [')', ')'] := rfl
  cases label with
  | none =>
      simp only [nearestText, nearestParameters, Text.joined_singleton, String.toList_append,
        hcall, hblank, hend, toList_targetHits, labelChars, call, argumentChars, List.append_assoc,
        List.append_nil, List.cons_append, List.nil_append]
  | some label =>
      simp only [nearestText, nearestParameters, Text.joined_cons_cons, Text.joined_singleton,
        String.toList_append, hcall, hcomma, hblank, hquote, hend, toList_targetHits, labelChars,
        call, argumentChars, List.append_assoc, List.append_nil, List.cons_append, List.nil_append]

theorem argumentChars_append_inj {field field' vector vector' : String} (hfield : Wordlike field)
    (hfield' : Wordlike field') (hvector : Wordlike vector) (hvector' : Wordlike vector')
    {s t : List Char}
    (h : argumentChars field vector ++ s = argumentChars field' vector' ++ t) :
    field = field' ∧ vector = vector' ∧ s = t := by
  simp only [argumentChars, List.append_assoc, List.cons_append, List.nil_append] at h
  obtain ⟨hfields, -, hrest⟩ := Text.run_append_inj hfield hfield' (by decide) (by decide) h
  obtain ⟨hvectors, -, hrest⟩ :=
    Text.run_append_inj hvector hvector' (by decide) (by decide) (List.cons.inj hrest).2
  exact ⟨String.toList_inj.mp hfields, String.toList_inj.mp hvectors, (List.cons.inj hrest).2⟩

/-- Labels that do not break out show where they end. -/
theorem labelChars_append_inj {label label' : Option String} (h : ∀ text ∈ label, ¬ BreaksOut text)
    (h' : ∀ text ∈ label', ¬ BreaksOut text) {s t : List Char}
    (heq : labelChars label ++ (call ++ s) = labelChars label' ++ (call ++ t)) :
    label = label' ∧ s = t := by
  cases label with
  | none =>
      cases label' with
      | none => exact ⟨rfl, List.append_cancel_left heq⟩
      | some text => exact absurd (List.cons.inj heq).1 (by decide)
  | some text =>
      cases label' with
      | none => exact absurd (List.cons.inj heq).1 (by decide)
      | some text' =>
          simp only [labelChars, List.append_assoc, List.cons_append, List.nil_append,
            List.cons.injEq, true_and, List.append_cancel_left_eq] at heq
          obtain ⟨htext, hrest⟩ :=
            Text.mark_append_inj (by decide) (h text rfl) (h' text' rfl) heq
          exact ⟨by rw [String.toList_inj.mp htext], hrest⟩

theorem isDigit_labelChars_append (label : Option String) (rest : List Char) :
    ∃ c more, labelChars label ++ (call ++ rest) = c :: more ∧ c.isDigit = false := by
  cases label with
  | none => exact ⟨_, _, rfl, by decide⟩
  | some text => exact ⟨_, _, rfl, by decide⟩

theorem Labelled.append_inj {a b : Condition} (ha : a.Labelled) (hb : b.Labelled)
    (hlabel : ∀ text ∈ a.label?, ¬ BreaksOut text) (hlabel' : ∀ text ∈ b.label?, ¬ BreaksOut text)
    {s t : List Char} (h : a.yql.toList ++ s = b.yql.toList ++ t) : a = b ∧ s = t := by
  obtain ⟨field, vector, targetHits, label, hfield, hvector, rfl⟩ := ha.cases
  obtain ⟨field', vector', targetHits', label', hfield', hvector', rfl⟩ := hb.cases
  simp only [yql, toList_nearestText_label, List.append_assoc, List.append_cancel_left_eq] at h
  have hdigits (n : Nat) : ∀ c ∈ Nat.toDigits 10 n, c.isDigit = true := fun c =>
    Nat.isDigit_of_mem_toDigits (by decide) (by decide)
  obtain ⟨c, more, hmore, hc⟩ := isDigit_labelChars_append label (argumentChars field vector ++ s)
  obtain ⟨d, more', hmore', hd⟩ :=
    isDigit_labelChars_append label' (argumentChars field' vector' ++ t)
  rw [hmore, hmore'] at h
  obtain ⟨hhits, rfl, rfl⟩ := Text.run_append_inj (hdigits _) (hdigits _) hc hd h
  have hlabels : label = label' ∧ _ :=
    labelChars_append_inj hlabel hlabel' (hmore.trans hmore'.symm)
  obtain ⟨rfl, hrest⟩ := hlabels
  obtain ⟨rfl, rfl, rfl⟩ := argumentChars_append_inj hfield hfield' hvector hvector' hrest
  have hsame : targetHits = targetHits' := by
    have hnat := congrArg (Nat.ofDigitChars 10 · 0) hhits
    exact UInt32.toNat_inj.mp (by simpa using hnat)
  exact ⟨by rw [hsame], rfl⟩

end Condition

namespace Rank

open Condition (Labelled BreaksOut call argumentChars)

/-! ## The text of a rank clause -/

theorem toList_yql_ofList {first : Condition} {rest : List Condition}
    (h : ∀ condition ∈ first :: rest, condition.yql ≠ "") :
    (ofList (first :: rest)).yql.toList
      = "rank(".toList ++ (first.yql.toList
        ++ (rest.flatMap (fun next => ',' :: ([' '] ++ next.yql.toList)) ++ [')'])) := by
  have hblank : ", ".toList = [',', ' '] := rfl
  have hend : ")".toList = [')'] := rfl
  have hclauses : Text.nonEmpty ((first :: rest).map Condition.yql)
      = (first :: rest).map Condition.yql := by
    rw [Text.nonEmpty, List.filter_eq_self, List.forall_mem_map]
    exact fun condition hcondition => decide_eq_true (h condition hcondition)
  rw [yql, conditions_ofList, hclauses]
  simp only [List.map_cons, String.toList_append, Text.toList_joined_cons, List.flatMap_map, hblank,
    hend, List.append_assoc, List.cons_append, List.nil_append]

theorem yql_ofList_ne_empty {first : Condition} {rest : List Condition}
    (h : ∀ condition ∈ first :: rest, condition.yql ≠ "") : (ofList (first :: rest)).yql ≠ "" := by
  rw [ne_eq, ← String.toList_eq_nil_iff, toList_yql_ofList h]
  exact List.cons_ne_nil _ _

/-- **Clauses of searches have the same text just when they have the same
searches**, entry by entry, as long as no label breaks out. -/
theorem yql_eq_iff_searches_eq {as bs : List Condition} (has : ∀ a ∈ as, a.Labelled)
    (hbs : ∀ b ∈ bs, b.Labelled)
    (hlabel : ∀ condition ∈ as ++ bs, ∀ label ∈ condition.label?, ¬ BreaksOut label) :
    (ofList as).yql = (ofList bs).yql ↔ as = bs := by
  refine ⟨fun h => ?_, congrArg fun conditions => (ofList conditions).yql⟩
  have reads : ∀ a ∈ as, ∀ b ∈ bs, ∀ s t,
      a.yql.toList ++ s = b.yql.toList ++ t → a = b ∧ s = t := by
    intro a ha b hb s t
    exact (has a ha).append_inj (hbs b hb) (hlabel a (List.mem_append_left _ ha))
      (hlabel b (List.mem_append_right _ hb))
  cases as with
  | nil =>
      cases bs with
      | nil => rfl
      | cons b bs => exact absurd h.symm (yql_ofList_ne_empty fun c hc => (hbs c hc).yql_ne_empty)
  | cons a as =>
      cases bs with
      | nil => exact absurd h (yql_ofList_ne_empty fun c hc => (has c hc).yql_ne_empty)
      | cons b bs =>
          have hchars := congrArg String.toList h
          rw [toList_yql_ofList fun c hc => (has c hc).yql_ne_empty,
            toList_yql_ofList fun c hc => (hbs c hc).yql_ne_empty] at hchars
          obtain ⟨rfl, hrest⟩ := reads a List.mem_cons_self b List.mem_cons_self _ _
            (List.append_cancel_left hchars)
          have hothers : ∀ c ∈ as, ∀ d ∈ bs, ∀ s t,
              c.yql.toList ++ s = d.yql.toList ++ t → c = d ∧ s = t :=
            fun c hc d hd => reads c (List.mem_cons_of_mem _ hc) d (List.mem_cons_of_mem _ hd)
          have hcomma : ',' ≠ ')' := by decide
          rw [(Text.followers_inj hcomma [' '] hothers hrest).1]

def search (labels : List String) : Condition :=
  Field.nearestTo ⟨"f"⟩ "q" 1 (labels.map .label)

theorem labelled_search (labels : List String) : (search labels).Labelled :=
  .intro 1 labels (by decide) (by decide)

/-- A quote in a label, and a brace behind it, do not break out. -/
theorem yql_search_quote :
    (∀ label ∈ ["it's", "'\x7d, ("], ¬ BreaksOut label)
      ∧ (ofList [search ["'\x7d, ("]]).yql ≠ (ofList [search [], search ["old", "it's"]]).yql := by
  have hlabel : ∀ label ∈ ["it's", "'\x7d, ("], ¬ BreaksOut label := by
    unfold BreaksOut
    decide
  refine ⟨hlabel, ?_⟩
  rw [ne_eq, yql_eq_iff_searches_eq]
  · exact fun h => nomatch congrArg List.length h
  · exact List.forall_mem_singleton.mpr (labelled_search _)
  · simp [labelled_search]
  · intro condition hcondition label hmem
    apply hlabel
    simp only [List.cons_append, List.nil_append, List.mem_cons, List.not_mem_nil, or_false]
      at hcondition
    rcases hcondition with rfl | rfl | rfl <;> cases hmem <;> simp

/-! ## Forged labels -/

/-- A label that ends the search it stands in and begins another one. -/
def forgedLabel (first second field vector : String) (targetHits : UInt32) : String :=
  first ++ "'\x7dnearestNeighbor(" ++ field ++ ", " ++ vector ++ ")), (\x7btargetHits:"
    ++ toString targetHits.toNat ++ ",label:'" ++ second

theorem toList_forgedLabel (first second field vector : String) (targetHits : UInt32) :
    (forgedLabel first second field vector targetHits).toList
      = first.toList ++ '\'' :: (call ++ (argumentChars field vector ++ ',' :: ' '
        :: ("(\x7b".toList ++ ("targetHits:".toList ++ (Nat.toDigits 10 targetHits.toNat
        ++ ',' :: ("label:'".toList ++ second.toList)))))) := by
  have hcall : "'\x7dnearestNeighbor(".toList = '\'' :: call := rfl
  have hblank : ", ".toList = [',', ' '] := rfl
  have hnext : ")), (\x7btargetHits:".toList
      = [')', ')', ',', ' '] ++ ("(\x7b".toList ++ "targetHits:".toList) := rfl
  have hlabel : ",label:'".toList = ',' :: "label:'".toList := rfl
  simp only [forgedLabel, String.toList_append, hcall, hblank, hnext, hlabel,
    Condition.toList_targetHits, argumentChars, List.append_assoc, List.cons_append,
    List.nil_append]

theorem yql_forged (first second field field' vector vector' : String)
    (targetHits targetHits' : UInt32) :
    (ofList [Field.nearestTo ⟨field'⟩ vector' targetHits
        [.label (forgedLabel first second field vector targetHits')]]).yql
      = (ofList [Field.nearestTo ⟨field⟩ vector targetHits [.label first],
          Field.nearestTo ⟨field'⟩ vector' targetHits' [.label second]]).yql := by
  have hwritten (field vector : String) (targetHits : UInt32) (label : String) :
      (Field.nearestTo ⟨field⟩ vector targetHits [.label label]).yql
        = Condition.nearestText field vector targetHits ⟨some label, none, none⟩ := rfl
  have hne (field vector : String) (targetHits : UInt32) (label : String) :
      (Field.nearestTo ⟨field⟩ vector targetHits [.label label]).yql ≠ "" :=
    Condition.nearestText_ne_empty _ _ _ _
  rw [← String.toList_inj, toList_yql_ofList (by simp [hne]), toList_yql_ofList (by simp [hne])]
  simp only [hwritten, Condition.toList_nearestText_label, Condition.labelChars, toList_forgedLabel,
    List.flatMap_cons, List.flatMap_nil, List.append_assoc, List.append_nil, List.cons_append,
    List.nil_append]

/-- A label that breaks out lets one search pass for two. -/
theorem yql_forged_same :
    ¬ ∀ as bs : List Condition, (∀ a ∈ as, a.Labelled) → (∀ b ∈ bs, b.Labelled) →
      (ofList as).yql = (ofList bs).yql → (ofList as).yql ≠ "" → as = bs := by
  intro h
  have hone : ∀ a ∈ [search [forgedLabel "a" "b" "f" "q" 1]], a.Labelled :=
    List.forall_mem_singleton.mpr (labelled_search _)
  have htwo : ∀ b ∈ [search ["a"], search ["b"]], b.Labelled := by simp [labelled_search]
  have hsame := h _ _ hone htwo (yql_forged "a" "b" "f" "f" "q" "q" 1 1)
    (yql_ofList_ne_empty fun a ha => (hone a ha).yql_ne_empty)
  exact nomatch congrArg List.length hsame

end Rank

end Yql
