import Yql.Proofs.Json.Written
import Yql.Proofs.Request.Reading

/-!
# The wire format is lossless

Both bodies of a request, the compact and the wide one, are read back as the
request (`lossless`), so that a body belongs to one request only. The inputs of
the request must be portable: a floating number need not be read back as it
was, and brackets that are too deep are not read at all. The request and its
inputs are brackets too, which leaves the input values two levels less than the
reader has.
-/

namespace Yql.Request

variable {request : Request}

/-- The input values are written without loss, with at most 125 levels of
brackets. -/
def Portable (request : Request) : Prop :=
  ∀ inputs, request.input = some inputs → ∀ entry ∈ inputs.entries, Json.Portable 125 entry.2

theorem isWord_toNat (n : UInt64) : Json.IsWord n.toNat := by
  have hlt : n.toNat < 0x10000000000000000 := n.toNat_lt
  constructor
  · omega
  · omega

theorem Portable.value (h : request.Portable) {parameter : Parameter} {value : Json}
    (hvalue : request.value? parameter = some value) : Json.Portable 126 value := by
  cases parameter with
  | yql =>
      cases hvalue
      exact .string _
  | ranking | defaultIndex | query =>
      obtain ⟨text, -, rfl⟩ := Option.map_eq_some_iff.mp hvalue
      exact .string text
  | hits | offset =>
      obtain ⟨n, -, rfl⟩ := Option.map_eq_some_iff.mp hvalue
      exact .whole (isWord_toNat n)
  | input =>
      obtain ⟨inputs, hinputs, rfl⟩ := Option.map_eq_some_iff.mp hvalue
      exact .object inputs.ascending (h inputs hinputs)

def present (request : Request) : List Parameter :=
  Parameter.all.filter fun parameter => (request.value? parameter).isSome

theorem members_eq_map (request : Request) :
    request.members = request.present.map request.memberOf := by
  unfold members present
  induction Parameter.all with
  | nil => rfl
  | cons parameter rest ih =>
      cases hvalue : request.value? parameter with
      | none => simp [hvalue, ih]
      | some value => simp [hvalue, ih, memberOf, valueOf]

theorem mem_all (parameter : Parameter) : parameter ∈ Parameter.all := by
  cases parameter <;> decide

theorem mem_present {parameter : Parameter} (h : request.value? parameter ≠ none) :
    parameter ∈ request.present :=
  List.mem_filter.mpr ⟨mem_all parameter, Option.isSome_iff_ne_none.mpr h⟩

theorem nodup_present (request : Request) : request.present.Nodup :=
  List.Nodup.sublist List.filter_sublist (by decide)

theorem read_of_objectText {text : String}
    (h : Json.ObjectText (Json.levelLimit - 1) request.members text.toList) :
    read text = .ok request := by
  rw [members_eq_map] at h
  exact read_members request.nodup_present (fun _ => mem_present) h

theorem Portable.member (h : request.Portable) {member : String × Json}
    (hmember : member ∈ request.members) : Json.Portable 126 member.2 := by
  obtain ⟨parameter, -, hpair⟩ := List.mem_filterMap.mp hmember
  obtain ⟨value, hvalue, rfl⟩ := Option.map_eq_some_iff.mp hpair
  exact h.value hvalue

theorem Portable.read_compact (h : request.Portable) : read request.compact = .ok request :=
  read_of_objectText (Json.objectText_compact fun _ hmember => (h.member hmember).compact)

theorem Portable.read_pretty (h : request.Portable) : read request.pretty = .ok request :=
  read_of_objectText (Json.objectText_wide 0 fun _ hmember => (h.member hmember).wide 1)

/-- **The body of a request is lossless.** Both layouts are read back as the
request, and so no other request has the same body in either of them. -/
theorem lossless (h : request.Portable) :
    read request.compact = .ok request ∧ read request.pretty = .ok request
      ∧ ∀ other : Request, other.Portable →
          other.compact = request.compact ∨ other.pretty = request.pretty → other = request := by
  refine ⟨h.read_compact, h.read_pretty, ?_⟩
  intro other hother hsame
  rcases hsame with hsame | hsame
  · have hread := hother.read_compact
    rw [hsame, h.read_compact] at hread
    exact (Except.ok.inj hread).symm
  · have hread := hother.read_pretty
    rw [hsame, h.read_pretty] at hread
    exact (Except.ok.inj hread).symm

def nested : (levels : Nat) → Json
  | 0 => .null
  | levels + 1 => .array [nested levels]

theorem portable_nested (levels : Nat) : Json.Portable levels (nested levels) := by
  induction levels with
  | zero => exact .null
  | succ levels ih => exact .array (by simpa using ih)

/-- A request at the edges of what is portable: texts with quotes, backslashes
and control characters, an empty text, zero and the greatest count, the numbers
at both ends of a word, and brackets as deep as they may be. -/
def edges : Request where
  yql := "select \"\\\" \t\x00 é"
  ranking := some ""
  hits := some 0
  offset := some 18446744073709551615
  input := some
    ⟨[("deep", nested 125), ("empty", .object []),
      ("words", .array [.number (.whole (-0x8000000000000000)),
        .number (.whole 0xffffffffffffffff)])],
      by decide⟩

theorem portable_edges : edges.Portable := by
  rintro inputs hinputs entry hentry
  cases hinputs
  simp only [List.mem_cons, List.not_mem_nil, or_false] at hentry
  rcases hentry with rfl | rfl | rfl
  · exact portable_nested 125
  · exact .object List.Pairwise.nil (by simp)
  · refine .array ?_
    intro item hitem
    simp only [List.mem_cons, List.not_mem_nil, or_false] at hitem
    rcases hitem with rfl | rfl
    · exact .whole ⟨by decide, by decide⟩
    · exact .whole ⟨by decide, by decide⟩

theorem lossless_edges :
    edges.Portable ∧ read edges.compact = .ok edges ∧ read edges.pretty = .ok edges :=
  ⟨portable_edges, (lossless portable_edges).1, (lossless portable_edges).2.1⟩

end Yql.Request
