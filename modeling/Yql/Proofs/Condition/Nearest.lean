import Mathlib.Data.List.Induction
import Yql.Condition.Render

/-!
# Annotations of a search

What is said about a search for nearest neighbours is a list of annotations of
three kinds. Of each kind the last one counts, and the kinds do not meddle with
one another (`ofList_eq_last`). What is written has an order of its own, so the
order between annotations of different kinds leaves no trace, and neither does
anything that was said before the last of its kind (`annotations_last`).
-/

namespace Yql

/-! ## The last of each kind -/

namespace NearestAnnotation

def label? : NearestAnnotation → Option String
  | label text => some text
  | _ => none

def threshold? : NearestAnnotation → Option Double
  | threshold distance => some distance
  | _ => none

def approximate? : NearestAnnotation → Option Bool
  | approximate allowed => some allowed
  | _ => none

/-- The last of what the annotations give. -/
def last {α : Type} (give? : NearestAnnotation → Option α)
    (annotations : List NearestAnnotation) : Option α :=
  (annotations.filterMap give?).getLast?

theorem last_concat {α : Type} (give? : NearestAnnotation → Option α)
    (annotations : List NearestAnnotation) (next : NearestAnnotation) :
    last give? (annotations ++ [next]) = (give? next).or (last give? annotations) := by
  rw [last, last, List.filterMap_append, List.getLast?_append]
  cases h : give? next <;> simp [h]

/-- The lists end with the same annotation of each kind. -/
structure SameLast (a b : List NearestAnnotation) : Prop where
  label : last label? a = last label? b
  threshold : last threshold? a = last threshold? b
  approximate : last approximate? a = last approximate? b

/-- The lists have the same annotations of each kind in the same order; only
the kinds may be mixed in another way. -/
structure SameOrder (a b : List NearestAnnotation) : Prop where
  label : a.filterMap label? = b.filterMap label?
  threshold : a.filterMap threshold? = b.filterMap threshold?
  approximate : a.filterMap approximate? = b.filterMap approximate?

theorem SameOrder.sameLast {a b : List NearestAnnotation} (h : SameOrder a b) : SameLast a b where
  label := congrArg List.getLast? h.label
  threshold := congrArg List.getLast? h.threshold
  approximate := congrArg List.getLast? h.approximate

def unbounded (annotations : List NearestAnnotation) : List NearestAnnotation :=
  annotations.filter fun next => next.threshold?.isNone

theorem filterMap_unbounded {α : Type} {give? : NearestAnnotation → Option α}
    (h : ∀ distance, give? (.threshold distance) = none) (annotations : List NearestAnnotation) :
    (unbounded annotations).filterMap give? = annotations.filterMap give? := by
  rw [unbounded, List.filterMap_filter]
  congr 1
  funext next
  cases next with
  | threshold distance => simp [threshold?, h]
  | _ => rfl

theorem last_threshold_unbounded (annotations : List NearestAnnotation) :
    last threshold? (unbounded annotations) = none := by
  have hnone : (unbounded annotations).filterMap threshold? = [] := by
    rw [List.filterMap_eq_nil_iff]
    intro next hmem
    simpa using (List.mem_filter.mp hmem).2
  rw [last, hnone, List.getLast?_nil]

end NearestAnnotation

namespace NearestSettings

open NearestAnnotation

theorem ofList_eq_last (annotations : List NearestAnnotation) :
    ofList annotations
      = ⟨last label? annotations, last threshold? annotations, last approximate? annotations⟩ := by
  induction annotations using List.reverseRecOn with
  | nil => rfl
  | append_singleton annotations next ih =>
      have hstep : ofList (annotations ++ [next])
          = (ofList annotations).annotated next := by
        rw [ofList, List.foldl_append]
        rfl
      rw [hstep, ih, last_concat, last_concat, last_concat]
      cases next with
      | label text => rfl
      | threshold distance => rfl
      | approximate allowed => rfl

theorem foldl_annotated_ofList (front rest : List NearestAnnotation) :
    rest.foldl annotated (ofList front) = ofList (front ++ rest) := by
  rw [ofList, ofList, List.foldl_append]

end NearestSettings

/-! ## What is written -/

namespace Condition

open NearestAnnotation

/-- The parameters of a search as they are written: the number of hits, and the
settings that say something, each in its place. -/
def writtenParameters (targetHits : UInt32) (label : Option String) (threshold : Option Double)
    (approximate : Option Bool) : List String :=
  ["targetHits:" ++ toString targetHits.toNat]
    ++ (label.map fun label => "label:'" ++ label ++ "'").toList
    ++ ((threshold.filter Binary.isFinite).map fun threshold =>
      "distanceThreshold:" ++ threshold.fixedText 6).toList
    ++ (approximate.map fun allowed => "approximate:" ++ if allowed then "true" else "false").toList

theorem nearestParameters_eq_written (targetHits : UInt32) (settings : NearestSettings) :
    nearestParameters targetHits settings
      = writtenParameters targetHits settings.label settings.threshold settings.approximate := by
  obtain ⟨label, threshold, approximate⟩ := settings
  cases threshold with
  | none => cases label <;> cases approximate <;> rfl
  | some threshold =>
      by_cases hfinite : threshold.isFinite = true
      · cases label <;> cases approximate <;>
          simp [nearestParameters, writtenParameters, Option.filter, hfinite]
      · cases label <;> cases approximate <;>
          simp [nearestParameters, writtenParameters, Option.filter, hfinite]

theorem yql_nearestTo (field : Field) (vector : String) (targetHits : UInt32)
    (annotations : List NearestAnnotation) :
    (field.nearestTo vector targetHits annotations).yql
      = "(\x7b"
        ++ Text.joined "," (writtenParameters targetHits (last label? annotations)
          (last threshold? annotations) (last approximate? annotations))
        ++ "\x7dnearestNeighbor(" ++ field.name ++ ", " ++ vector ++ "))" := by
  rw [Field.nearestTo, yql, nearestText, nearestParameters_eq_written,
    NearestSettings.ofList_eq_last]

theorem yql_nearestTo_congr {a b : List NearestAnnotation} (h : SameLast a b) (field : Field)
    (vector : String) (targetHits : UInt32) :
    (field.nearestTo vector targetHits a).yql = (field.nearestTo vector targetHits b).yql := by
  rw [yql_nearestTo, yql_nearestTo, h.label, h.threshold, h.approximate]

/-- If the last threshold is not finite, no threshold is written at all. -/
theorem yql_nearestTo_of_not_finite {annotations : List NearestAnnotation} {distance : Double}
    (hlast : last threshold? annotations = some distance) (h : distance.isFinite = false)
    (field : Field) (vector : String) (targetHits : UInt32) :
    (field.nearestTo vector targetHits annotations).yql
      = (field.nearestTo vector targetHits (unbounded annotations)).yql := by
  have hlabel : last label? (unbounded annotations) = last label? annotations :=
    congrArg List.getLast? (filterMap_unbounded (fun _ => rfl) annotations)
  have happroximate : last approximate? (unbounded annotations) = last approximate? annotations :=
    congrArg List.getLast? (filterMap_unbounded (fun _ => rfl) annotations)
  rw [yql_nearestTo, yql_nearestTo, hlabel, happroximate, last_threshold_unbounded, hlast]
  simp [writtenParameters, Option.filter, h]

/-- **The last annotation of each kind counts.** Settings hold for each kind
the last that was given, whether the annotations are given at once or the rest
one by one after the front. The text of a search names the number of hits, the
last label, the last threshold if it is finite and the last word on
approximation, in this order. So lists that end with the same annotation of each
kind are written alike, above all lists that only mix the kinds in another way;
and if the last threshold is not finite, it is as if none had been given. -/
theorem annotations_last (annotations : List NearestAnnotation) :
    NearestSettings.ofList annotations
        = ⟨last label? annotations, last threshold? annotations, last approximate? annotations⟩
      ∧ (∀ front rest, annotations = front ++ rest →
        rest.foldl NearestSettings.annotated (.ofList front) = .ofList annotations)
      ∧ ∀ (field : Field) (vector : String) (targetHits : UInt32),
        (field.nearestTo vector targetHits annotations).yql
            = "(\x7b"
              ++ Text.joined "," (writtenParameters targetHits (last label? annotations)
                (last threshold? annotations) (last approximate? annotations))
              ++ "\x7dnearestNeighbor(" ++ field.name ++ ", " ++ vector ++ "))"
          ∧ (∀ others, SameLast others annotations →
            (field.nearestTo vector targetHits others).yql
              = (field.nearestTo vector targetHits annotations).yql)
          ∧ (∀ others, SameOrder others annotations →
            (field.nearestTo vector targetHits others).yql
              = (field.nearestTo vector targetHits annotations).yql)
          ∧ ∀ distance, last threshold? annotations = some distance → distance.isFinite = false →
            (field.nearestTo vector targetHits annotations).yql
              = (field.nearestTo vector targetHits (unbounded annotations)).yql := by
  refine ⟨NearestSettings.ofList_eq_last annotations, ?_, ?_⟩
  · rintro front rest rfl
    exact NearestSettings.foldl_annotated_ofList front rest
  · intro field vector targetHits
    refine ⟨yql_nearestTo field vector targetHits annotations, ?_, ?_, ?_⟩
    · intro others h
      exact yql_nearestTo_congr h field vector targetHits
    · intro others h
      exact yql_nearestTo_congr h.sameLast field vector targetHits
    · intro distance hlast h
      exact yql_nearestTo_of_not_finite hlast h field vector targetHits

/-- Annotations that say everything twice and take the threshold back. -/
def wavering : List NearestAnnotation :=
  [.threshold (Binary.ofRatio false 1 2), .label "first", .approximate true, .label "last",
    .approximate false, .threshold (Binary.infinite false)]

def byKind : List NearestAnnotation :=
  [.label "first", .label "last", .approximate true, .approximate false,
    .threshold (Binary.ofRatio false 1 2), .threshold (Binary.infinite false)]

theorem annotations_last_wavering :
    ([.label "last"] : List NearestAnnotation).foldl NearestSettings.annotated
          (.ofList (wavering.take 3))
        = .ofList (wavering.take 4)
      ∧ ((Field.mk "f").nearestTo "q" 10 byKind).yql
        = ((Field.mk "f").nearestTo "q" 10 wavering).yql
      ∧ ((Field.mk "f").nearestTo "q" 10 [.approximate false, .threshold .missing, .label "last",
            .threshold (.infinite false)]).yql
        = ((Field.mk "f").nearestTo "q" 10 wavering).yql
      ∧ ((Field.mk "f").nearestTo "q" 10 wavering).yql
        = ((Field.mk "f").nearestTo "q" 10 (unbounded wavering)).yql
      ∧ ((Field.mk "f").nearestTo "q" 10 wavering).yql
        = "(\x7btargetHits:10,label:'last',approximate:false\x7dnearestNeighbor(f, q))" := by
  obtain ⟨-, -, hwavering⟩ := annotations_last wavering
  obtain ⟨htext, hlast, horder, hbound⟩ := hwavering ⟨"f"⟩ "q" 10
  refine ⟨?_, ?_, ?_, ?_, ?_⟩
  · exact (annotations_last (wavering.take 4)).2.1 (wavering.take 3) _ rfl
  · exact horder byKind ⟨rfl, rfl, rfl⟩
  · exact hlast _ ⟨rfl, rfl, rfl⟩
  · exact hbound (.infinite false) rfl (by decide)
  · exact htext.trans (by decide +kernel)

end Condition

end Yql
