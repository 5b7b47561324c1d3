import Mathlib.Data.List.Nodup
import Yql.Proofs.Json.Skipping
import Yql.Request.Reading

/-!
# Requests are read from their members

A request is read from any object that has one member for each parameter that
is present (`Spelled.read_eq_ok`). The members may stand in any order, a
parameter that is absent may have a member with the value `null`, and members of
other names are passed over.

The readers of single parameters agree with the general reader of values. With
that a member takes the reader of members one step forward: what has been read
is the request restricted to the parameters met so far, and the parameter of the
member's name, if there is one, is met (`Spells.step`). A run of such steps ends
with all parameters met.
-/

namespace Yql.Request

open Json (skipBlanks Blanks Ends MemberText Reads row inBrackets ObjectText)

variable {α : Type} {room : Nat}

/-! ## Readers of parameters -/

/-- The reader takes what the reader of values takes for the value of
something. -/
def Agrees (room : Nat) (read : List Char → Except ReadError (α × List Char)) (json : α → Json) :
    Prop :=
  ∀ input a rest, Json.readValue room (Json.levelLimit - 1) input = some (json a, rest) →
    read input = .ok (a, rest)

theorem agrees_readText : Agrees room (readText room) Json.string := by
  intro input text rest h
  cases Json.front_of_readValue h with
  | string hinput hread =>
      rw [readText, hinput]
      exact congrArg orMalformed hread

theorem agrees_readCount : Agrees room (readCount room) countJson := by
  intro input n rest h
  cases Json.front_of_readValue h with
  | number hread =>
      obtain ⟨c, more, hinput, hc⟩ := Json.exists_cons_of_readNumber hread
      rw [hinput] at hread
      rw [readCount, hinput]
      simp [hc, hread]

theorem agrees_readInputs :
    Agrees room (readInputs room) fun inputs => Json.object inputs.entries := by
  intro input inputs rest h
  cases Json.front_of_readValue h with
  | @object inner members _ more hlevels hinput hread hentries =>
      obtain rfl : inner = Json.levelLimit - 2 := by
        simp only [Json.levelLimit] at hlevels ⊢
        omega
      obtain rfl : inputs = KeyMap.ofList members := by
        cases inputs
        cases hentries
        rfl
      rw [readInputs, hinput]
      simp [hread, orMalformed]

/-- What may be absent is read where it is present, and its absence is read
from `null`. -/
theorem Agrees.readOptional {read : List Char → Except ReadError (α × List Char)} {json : α → Json}
    (h : Agrees room read json) (hne : ∀ a, json a ≠ .null) :
    Agrees room (readOptional read) fun a => (a.map json).getD .null := by
  intro input a rest hread
  have hfront := Json.front_of_readValue hread
  rw [← Json.readValue_skipBlanks] at hread
  cases a with
  | none =>
      cases hfront with
      | null hinput hword =>
          rw [Request.readOptional, hinput]
          simp [hword, orMalformed]
  | some a =>
      unfold Request.readOptional
      split
      · -- nothing but `null` is read from what begins with its letter
        rename_i more hinput
        rw [hinput, Json.readValue_eq_readScalar (by decide) (by decide) (by decide)] at hread
        obtain ⟨_, -, heq⟩ := Option.map_eq_some_iff.mp hread
        exact absurd (congrArg Prod.fst heq).symm (hne a)
      · rw [h _ a rest hread]
        rfl

/-! ## One parameter -/

def restricted (request : Request) (met : List Parameter) : Request where
  yql := if .yql ∈ met then request.yql else ""
  ranking := if .ranking ∈ met then request.ranking else none
  hits := if .hits ∈ met then request.hits else none
  offset := if .offset ∈ met then request.offset else none
  defaultIndex := if .defaultIndex ∈ met then request.defaultIndex else none
  input := if .input ∈ met then request.input else none
  query := if .query ∈ met then request.query else none

/-- The value of a parameter, `null` if the request does not have it. -/
def valueOf (request : Request) (parameter : Parameter) : Json :=
  (request.value? parameter).getD .null

/-- A parameter is read into the request restricted to the parameters met
before. -/
theorem readParameter_restricted {request : Request} {parameter : Parameter}
    {input rest : List Char}
    (h : Json.readValue room (Json.levelLimit - 1) input = some (request.valueOf parameter, rest))
    (met : List Parameter) :
    readParameter room parameter (request.restricted met) input
      = .ok (request.restricted (parameter :: met), rest) := by
  have htext : Agrees room (readOptional (readText room)) _ := agrees_readText.readOptional nofun
  have hcount : Agrees room (readOptional (readCount room)) _ :=
    agrees_readCount.readOptional nofun
  have hinputs : Agrees room (readOptional (readInputs room)) _ :=
    agrees_readInputs.readOptional nofun
  cases parameter with
  | yql =>
      rw [readParameter, agrees_readText _ _ _ h]
      simp [restricted, Except.map]
  | ranking | defaultIndex | query =>
      rw [readParameter, htext _ _ _ h]
      simp [restricted, Except.map]
  | hits | offset =>
      rw [readParameter, hcount _ _ _ h]
      simp [restricted, Except.map]
  | input =>
      rw [readParameter, hinputs _ _ _ h]
      simp [restricted, Except.map]

theorem ite_eq_self {P : Prop} [Decidable P] {value : Option α} (h : value ≠ none → P) :
    (if P then value else none) = value := by
  cases value with
  | none => exact ite_self none
  | some a => exact if_pos (h nofun)

theorem restricted_eq_self {request : Request} {met : List Parameter}
    (h : ∀ parameter, request.value? parameter ≠ none → parameter ∈ met) :
    request.restricted met = request := by
  have hmap {β : Type} {f : β → Json} {value : Option β} (hvalue : value ≠ none) :
      value.map f ≠ none := by simpa using hvalue
  have hyql : (if .yql ∈ met then request.yql else "") = request.yql := if_pos (h .yql nofun)
  rw [restricted, hyql, ite_eq_self fun hvalue => h .ranking (hmap hvalue),
    ite_eq_self fun hvalue => h .hits (hmap hvalue),
    ite_eq_self fun hvalue => h .offset (hmap hvalue),
    ite_eq_self fun hvalue => h .defaultIndex (hmap hvalue),
    ite_eq_self fun hvalue => h .input (hmap hvalue),
    ite_eq_self fun hvalue => h .query (hmap hvalue)]

/-! ## Members -/

/-- The reader of members takes the text of a member, whatever ends the text,
and goes from one state to the next. -/
def Step (size : Nat) (state : Gathered) (text : List Char) (next : Gathered) : Prop :=
  ∀ rest, Ends rest → ∃ more name behind left, skipBlanks (text ++ rest) = '"' :: more
    ∧ Json.readString size more = some (name, behind)
    ∧ readMember size name state behind = .ok (next, left)
    ∧ skipBlanks left = skipBlanks rest

theorem ofName?_name (parameter : Parameter) :
    Parameter.ofName? parameter.name = some parameter := by
  cases parameter <;> rfl

/-- A member that the request may be written with: a parameter with its value,
which is `null` if the request does not have it, or anything of another name. -/
structure Spells (request : Request) (cell : MemberText) : Prop where
  named : cell.Named
  parameter : ∀ parameter, Parameter.ofName? cell.name = some parameter →
    Json.ValueText (Json.levelLimit - 1) (request.valueOf parameter) cell.text
  other : Parameter.ofName? cell.name = none → Json.Form cell.text

/-- A member puts the parameter of its name, if there is one, into what has been
read. -/
theorem Spells.step {size : Nat} {request : Request} {cell : MemberText} {met : List Parameter}
    (h : request.Spells cell)
    (hnew : ∀ parameter, Parameter.ofName? cell.name = some parameter → parameter ∉ met)
    (hsize : cell.chars.length ≤ size) :
    Step size ⟨request.restricted met, met⟩ cell.chars
      ⟨request.restricted ((Parameter.ofName? cell.name).toList ++ met),
        (Parameter.ofName? cell.name).toList ++ met⟩ := by
  intro rest hrest
  have hlength := cell.length_le_chars
  have hlabel := h.named.label.readString (show cell.label.length ≤ size by omega)
    (cell.between ++ ':' :: (cell.text ++ rest))
  have hcolon : skipBlanks (cell.between ++ ':' :: (cell.text ++ rest))
      = ':' :: (cell.text ++ rest) := by
    rw [h.named.between.skipBlanks_append, Json.skipBlanks_cons (by decide)]
  cases hname : Parameter.ofName? cell.name with
  | none =>
      have hskips : Reads (Json.skipValue size size) () cell.text :=
        (h.other hname).skips (by omega) (by omega)
      obtain ⟨left, hread, hleft⟩ := hskips rest hrest
      refine ⟨_, _, _, left, h.named.spaced.skipBlanks_chars rest, hlabel, ?_, hleft⟩
      simp [readMember, hname, hcolon, hread, orMalformed, Except.map]
  | some parameter =>
      have hreads : Reads (Json.readValue size (Json.levelLimit - 1)) _ cell.text :=
        (h.parameter parameter hname).reads (by omega)
      obtain ⟨left, hread, hleft⟩ := hreads rest hrest
      refine ⟨_, _, _, left, h.named.spaced.skipBlanks_chars rest, hlabel, ?_, hleft⟩
      simp [readMember, hname, hcolon, hnew parameter hname, readParameter_restricted hread,
        Except.map]

/-- The reader of members goes from state to state, a text for each step. -/
inductive Run (size : Nat) : Gathered → List (List Char) → Gathered → Prop
  | nil (state : Gathered) : Run size state [] state
  | cons {state next final : Gathered} {text : List Char} {texts : List (List Char)}
      (hstep : Step size state text next) (hrest : Run size next texts final) :
      Run size state (text :: texts) final

theorem Run.split {size : Nat} {state final : Gathered} {texts rest : List (List Char)}
    (h : Run size state (texts ++ rest) final) :
    ∃ middle, Run size state texts middle ∧ Run size middle rest final := by
  induction texts generalizing state with
  | nil => exact ⟨state, .nil state, h⟩
  | cons text texts ih =>
      cases h with
      | cons hstep hrest =>
          obtain ⟨middle, htexts, hrest⟩ := ih hrest
          exact ⟨middle, .cons hstep htexts, hrest⟩

theorem readMembers_comma {size : Nat} {state next : Gathered} {text : List Char}
    (h : Step size state text next) (more : List Char) :
    readMembers (room + 1) size state (text ++ ',' :: more) = readMembers room size next more := by
  obtain ⟨_, _, _, left, hquote, hname, hmember, hleft⟩ :=
    h _ (Json.ends_cons (c := ',') (by decide) more)
  rw [Json.skipBlanks_cons (by decide)] at hleft
  rw [readMembers, hquote]
  simp only [hname, orMalformed, hmember, hleft, bind, Except.bind]

theorem readMembers_last {size : Nat} {state next : Gathered} {text gap : List Char}
    (h : Step size state text next) (hgap : Blanks gap) (rest : List Char) :
    readMembers (room + 1) size state (text ++ (gap ++ '\x7d' :: rest)) = .ok (next, rest) := by
  obtain ⟨_, _, _, left, hquote, hname, hmember, hleft⟩ :=
    h _ (hgap.ends_append (Json.closes_curly.ends rest))
  rw [hgap.skipBlanks_append, Json.skipBlanks_cons (by decide)] at hleft
  rw [readMembers, hquote]
  simp only [hname, orMalformed, hmember, hleft, bind, Except.bind]

/-- Members with a comma behind each are read by the steps they are made of. -/
theorem readMembers_run {size : Nat} {state final : Gathered} {texts : List (List Char)}
    (h : Run size state texts final) (more : List Char) :
    readMembers (texts.length + room) size state (texts.flatMap (· ++ [',']) ++ more)
      = readMembers room size final more := by
  induction h with
  | nil => rw [List.length_nil, Nat.zero_add, List.flatMap_nil, List.nil_append]
  | @cons state next final text texts hstep _ ih =>
      rw [List.length_cons, Nat.add_right_comm, List.flatMap_cons, List.append_assoc,
        List.append_assoc, List.singleton_append, readMembers_comma hstep, ih]

theorem readMembers_row {size : Nat} {state final : Gathered} {texts : List (List Char)}
    (h : Run size state texts final) (hne : texts ≠ []) (hroom : texts.length ≤ room)
    {gap : List Char} (hgap : Blanks gap) (rest : List Char) :
    readMembers room size state (row texts ++ (gap ++ '\x7d' :: rest)) = .ok (final, rest) := by
  obtain ⟨texts, last, rfl⟩ := (List.eq_nil_or_concat' texts).resolve_left hne
  obtain ⟨room, rfl⟩ : ∃ more, room = texts.length + (more + 1) := by
    rw [List.length_append, List.length_singleton] at hroom
    exact ⟨room - texts.length - 1, by omega⟩
  obtain ⟨middle, htexts, hlast⟩ := h.split
  cases hlast with
  | cons hstep hnone =>
      cases hnone
      have hrow : row [last] = last := by simp [row]
      rw [Json.row_append_cons, List.append_assoc, hrow, readMembers_run htexts]
      exact readMembers_last hstep hgap rest

theorem readMembers_skipBlanks (room size : Nat) (state : Gathered) (input : List Char) :
    readMembers room size state (skipBlanks input) = readMembers room size state input := by
  cases room with
  | zero => rfl
  | succ room => simp only [readMembers, Json.skipBlanks_idem]

theorem readMembers_closing (room size : Nat) (state : Gathered) (rest : List Char) :
    readMembers room size state ('\x7d' :: rest) = .error .malformed := by
  cases room with
  | zero => rfl
  | succ room => simp [readMembers, Json.skipBlanks_cons (c := '\x7d') (by decide)]

/-! ## The members of a request -/

def parametersOf (cells : List MemberText) : List Parameter :=
  cells.filterMap fun cell => Parameter.ofName? cell.name

/-- Members that the request may be written with: each of its parameters has one,
and no parameter has two. -/
structure Spelled (request : Request) (cells : List MemberText) : Prop where
  members : ∀ cell ∈ cells, request.Spells cell
  once : (parametersOf cells).Nodup
  whole : ∀ parameter, request.value? parameter ≠ none → parameter ∈ parametersOf cells

theorem run_members {size : Nat} {request : Request} {cells : List MemberText}
    {met : List Parameter} (hcells : ∀ cell ∈ cells, request.Spells cell)
    (hsize : ∀ cell ∈ cells, cell.chars.length ≤ size)
    (hnodup : (parametersOf cells ++ met).Nodup) :
    Run size ⟨request.restricted met, met⟩ (cells.map (·.chars))
      ⟨request.restricted ((parametersOf cells).reverse ++ met),
        (parametersOf cells).reverse ++ met⟩ := by
  induction cells generalizing met with
  | nil => exact .nil _
  | cons cell rest ih =>
      have hfirst := hcells cell List.mem_cons_self
      have hlength := hsize cell List.mem_cons_self
      have hothers := fun cell hmem => hcells cell (List.mem_cons_of_mem _ hmem)
      have hlengths := fun cell hmem => hsize cell (List.mem_cons_of_mem _ hmem)
      -- a member of another name meets nothing, and the others go on from the same state
      cases hname : Parameter.ofName? cell.name with
      | none =>
          have hskipped : parametersOf (cell :: rest) = parametersOf rest :=
            List.filterMap_cons_none hname
          rw [hskipped] at hnodup ⊢
          have hnew : ∀ other, Parameter.ofName? cell.name = some other → other ∉ met := by
            simp [hname]
          have hstep := hfirst.step hnew hlength
          rw [hname] at hstep
          exact .cons hstep (ih hothers hlengths hnodup)
      | some parameter =>
          have hmet : parametersOf (cell :: rest) = parameter :: parametersOf rest :=
            List.filterMap_cons_some hname
          rw [hmet] at hnodup ⊢
          obtain ⟨hnot, -⟩ := List.nodup_cons.mp hnodup
          have hnew : ∀ other, Parameter.ofName? cell.name = some other → other ∉ met := by
            intro other hother hmem
            obtain rfl := Option.some.inj (hname.symm.trans hother)
            exact hnot (List.mem_append_right _ hmem)
          have hstep := hfirst.step hnew hlength
          rw [hname] at hstep
          have hrun := ih hothers hlengths (List.nodup_middle.mpr hnodup)
          rw [List.reverse_cons, List.append_assoc]
          exact .cons hstep hrun

/-! ## Whole requests -/

/-- The text is the object of these members, with nothing but blanks around it. -/
def Written (cells : List MemberText) (text : List Char) : Prop :=
  ∃ before gap after : List Char, Blanks before ∧ Blanks gap ∧ Blanks after
    ∧ text = before ++ (inBrackets '\x7b' (cells.map (·.chars)) gap '\x7d' ++ after)

theorem Written.length_chars_le {cells : List MemberText} {text : List Char}
    (h : Written cells text) {cell : MemberText} (hcell : cell ∈ cells) :
    cell.chars.length ≤ text.length := by
  obtain ⟨before, gap, after, -, -, -, rfl⟩ := h
  have hmem := List.mem_map_of_mem (f := (·.chars)) hcell
  have hlt := Json.length_lt_inBrackets hmem '\x7b' gap '\x7d'
  simp only [List.length_append]
  omega

theorem Written.length_le {cells : List MemberText} {text : List Char} (h : Written cells text) :
    cells.length ≤ text.length := by
  obtain ⟨before, gap, after, -, -, -, rfl⟩ := h
  have hcount := Json.count_lt_inBrackets '\x7b' (cells.map (·.chars)) gap '\x7d'
  rw [List.length_map] at hcount
  simp only [List.length_append]
  omega

theorem readObject_eq {input : List Char} (h : readMembers room room {} input ≠ .error .malformed) :
    readObject room input
      = readMembers room room {} input >>= fun (state, rest) =>
          if .yql ∈ state.seen then .ok (state.request, rest)
          else .error (.invalid (.missing .yql)) := by
  rw [← readMembers_skipBlanks] at h ⊢
  unfold readObject
  split
  · rename_i hinput
    rw [hinput] at h
    exact absurd (readMembers_closing room room {} _) h
  · rfl

theorem read_eq {text : String} {before input : List Char} (hbefore : Blanks before)
    (htext : text.toList = before ++ '\x7b' :: input) :
    read text
      = readObject (text.toList.length + 1) input >>= fun (request, rest) =>
          if skipBlanks rest = [] then .ok request else .error .malformed := by
  rw [read, htext, hbefore.skipBlanks_append, Json.skipBlanks_cons (by decide)]
  rfl

/-- The members in front of a text that they may stand in are read by a run. -/
theorem Spelled.run {request : Request} {cells others : List MemberText}
    (h : request.Spelled (cells ++ others)) (hsize : ∀ cell ∈ cells, cell.chars.length ≤ room) :
    Run room {} (cells.map (·.chars))
      ⟨request.restricted (parametersOf cells).reverse, (parametersOf cells).reverse⟩ := by
  have hcells := fun cell hcell => h.members cell (List.mem_append_left others hcell)
  have hnodup : (parametersOf cells ++ []).Nodup := by
    rw [List.append_nil]
    exact h.once.sublist ((List.sublist_append_left cells others).filterMap _)
  have hrun := run_members hcells hsize hnodup
  rwa [List.append_nil] at hrun

/-- **A request is read from every object that it may be written with**: its
members stand in any order and among members of other names, and an absent
parameter may have a member too, if its value is `null`. -/
theorem Spelled.read_eq_ok {request : Request} {cells : List MemberText} (h : request.Spelled cells)
    {text : String} (htext : Written cells text.toList) : read text = .ok request := by
  have hsize : ∀ cell ∈ cells, cell.chars.length ≤ text.toList.length + 1 := fun cell hcell =>
    Nat.le_succ_of_le (htext.length_chars_le hcell)
  have hroom : (cells.map (·.chars)).length ≤ text.toList.length + 1 := by
    rw [List.length_map]
    exact Nat.le_succ_of_le htext.length_le
  have hall : request.Spelled (cells ++ []) := by rwa [List.append_nil]
  have hrun := hall.run hsize
  have hyql : Parameter.yql ∈ parametersOf cells := h.whole .yql (Option.some_ne_none _)
  have hne : cells.map (·.chars) ≠ [] := by
    rw [ne_eq, List.map_eq_nil_iff]
    rintro rfl
    exact List.not_mem_nil hyql
  obtain ⟨before, gap, after, hbefore, hgap, hafter, htext⟩ := htext
  have hmembers := readMembers_row hrun hne hroom hgap after
  have hself : request.restricted (parametersOf cells).reverse = request :=
    restricted_eq_self fun parameter hvalue => List.mem_reverse.mpr (h.whole parameter hvalue)
  have hobject : readObject (text.toList.length + 1) (row (cells.map (·.chars))
      ++ (gap ++ '\x7d' :: after)) = .ok (request, after) := by
    rw [readObject_eq (by simp [hmembers]), hmembers, hself]
    simp [bind, Except.bind, hyql]
  have hend : skipBlanks after = [] := by
    have hskip := hafter.skipBlanks_append []
    rwa [List.append_nil] at hskip
  rw [inBrackets, List.cons_append, List.append_assoc, List.append_assoc,
    List.singleton_append] at htext
  rw [read_eq hbefore htext, hobject]
  simp [bind, Except.bind, hend]

def memberOf (request : Request) (parameter : Parameter) : String × Json :=
  (parameter.name, request.valueOf parameter)

theorem parametersOf_of_members {request : Request} {cells : List MemberText}
    {parameters : List Parameter}
    (h : cells.map MemberText.member = parameters.map request.memberOf) :
    parametersOf cells = parameters := by
  have hnames := congrArg (List.filterMap fun member => Parameter.ofName? member.1) h
  rw [List.filterMap_map, List.filterMap_map] at hnames
  have hself : (fun member => Parameter.ofName? member.1) ∘ request.memberOf = some :=
    funext ofName?_name
  rw [hself, List.filterMap_some] at hnames
  exact hnames

theorem spells_of_member {request : Request} {cell : MemberText} {parameter : Parameter}
    (hmember : request.memberOf parameter = cell.member) (hnamed : cell.Named)
    (hvalue : Json.ValueText (Json.levelLimit - 1) cell.value cell.text) :
    request.Spells cell := by
  obtain ⟨hname, hsame⟩ := Prod.mk.inj hmember
  have hfound : Parameter.ofName? cell.name = some parameter := by
    rw [← hname, ofName?_name]
  refine ⟨hnamed, ?_, fun hnone => nomatch hfound.symm.trans hnone⟩
  intro other hother
  obtain rfl := Option.some.inj (hfound.symm.trans hother)
  rwa [hsame]

theorem read_members {request : Request} {parameters : List Parameter} (hnodup : parameters.Nodup)
    (hall : ∀ parameter, request.value? parameter ≠ none → parameter ∈ parameters)
    {text : String}
    (h : ObjectText (Json.levelLimit - 1) (parameters.map request.memberOf) text.toList) :
    read text = .ok request := by
  obtain ⟨cells, gap, hmembers, hcells, hgap, htext⟩ := h
  have hparameters := parametersOf_of_members hmembers
  have hspells : ∀ cell ∈ cells, request.Spells cell := by
    intro cell hcell
    have hmember := List.mem_map_of_mem (f := MemberText.member) hcell
    rw [hmembers] at hmember
    obtain ⟨parameter, -, hmember⟩ := List.mem_map.mp hmember
    exact spells_of_member hmember (hcells cell hcell).1 (hcells cell hcell).2
  have hspelled : request.Spelled cells :=
    ⟨hspells, by rwa [hparameters], by rwa [hparameters]⟩
  apply hspelled.read_eq_ok
  exact ⟨[], gap, [], Json.blanks_nil, hgap, Json.blanks_nil, by rw [htext]; simp⟩

end Yql.Request
