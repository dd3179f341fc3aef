import RkaiqToolServer.MediaConfig

/-!
# The parameters of a flow

A flow is created from one text: its own parameters and those of its elements,
put together with blanks.  The flow takes the text apart again and asks the
factory that is named in its parameters whether it works on the types of data
that these name.
-/

namespace RkaiqToolServer

open ParamText

def flowParamSeparateChar : Char := ' '

def keyName : ParamString := "name".toList

/-! ## Joining and taking apart -/

def joinFlowParam (flowParam : ParamString) (elems : List ParamString) :
    ParamString :=
  elems.foldl (fun ret elem => ret ++ flowParamSeparateChar :: elem) flowParam

def parseMediaParamList (param : ParamString) (delim : Char) :
    List ParamString :=
  lines delim param

/-- A flow has at least one element. -/
def parseFlowParamToList (param : ParamString) : List ParamString :=
  let separateList := parseMediaParamList param flowParamSeparateChar
  if separateList.length < 2 then [] else separateList

/-- The parameters of the flow itself and the texts of its elements. -/
def parseWrapFlowParams (param : ParamString) :
    Option (ParamMap × List ParamString) :=
  match parseFlowParamToList param with
  | [] => none
  | flowParam :: subParamList =>
      let flowParams := parseMediaParamMap flowParam
      if flowParams keyName = [] then none else some (flowParams, subParamList)

theorem joinFlowParam_eq (flowParam : ParamString)
    (elems : List ParamString) :
    joinFlowParam flowParam elems =
      [flowParamSeparateChar].intercalate (flowParam :: elems) := by
  unfold joinFlowParam
  induction elems generalizing flowParam with
  | nil => simp [List.intercalate]
  | cons elem elems ih =>
      rw [List.foldl_cons, ih]
      cases elems <;> simp [List.intercalate, List.intersperse]

/-- The texts come back exactly when none of them holds a blank, there is an
element, and the last one is not empty. -/
theorem parseFlowParamToList_joinFlowParam_iff {flowParam : ParamString}
    {elems : List ParamString} :
    parseFlowParamToList (joinFlowParam flowParam elems) =
        flowParam :: elems ↔
      (∀ text ∈ flowParam :: elems, flowParamSeparateChar ∉ text) ∧
        ∃ last, elems.getLast? = some last ∧ last ≠ [] := by
  unfold parseFlowParamToList parseMediaParamList
  rw [joinFlowParam_eq]
  have hcons : flowParam :: elems ≠ [] := List.cons_ne_nil _ _
  constructor
  · intro h
    dsimp only at h
    split at h
    · exact absurd h.symm hcons
    rename_i hlength
    rw [h, List.length_cons] at hlength
    have hblank : ∀ text ∈ flowParam :: elems,
        flowParamSeparateChar ∉ text := by
      intro text htext
      rw [← h] at htext
      exact not_mem_of_mem_lines htext
    have helems : elems ≠ [] := by
      rintro rfl
      exact hlength (by simp)
    refine ⟨hblank, elems.getLast helems,
      List.getLast?_eq_some_getLast helems, ?_⟩
    intro hempty
    have hlast : (flowParam :: elems).getLast? = some [] := by
      rw [List.getLast?_cons, List.getLast?_eq_some_getLast helems, hempty]
      rfl
    rw [lines_intercalate hcons hblank, if_pos hlast] at h
    have hshort := congrArg List.length h
    rw [List.length_dropLast, List.length_cons] at hshort
    omega
  · rintro ⟨hblank, last, hlast, hnonempty⟩
    have hgetLast : (flowParam :: elems).getLast? ≠ some [] := by
      rw [List.getLast?_cons, hlast]
      simpa using hnonempty
    have hlength : ¬ (flowParam :: elems).length < 2 := by
      have helems : elems ≠ [] := by
        rintro rfl
        contradiction
      have hpos := List.length_pos_iff.mpr helems
      rw [List.length_cons]
      omega
    rw [lines_intercalate hcons hblank, if_neg hgetLast]
    exact if_neg hlength

/-! ## Types of data -/

/-- The types that a product takes and gives, one a line; no text for nothing
and the empty text for anything. -/
structure MediaFactory where
  expectedInputDataType : Option ParamString
  outPutDataType : Option ParamString

/-- One of the types between the commas is expected. -/
def hasIntersection (str : ParamString) : Option ParamString → Bool
  | none => true
  | some expect =>
      decide (expect = []) ||
        (parseMediaParamList str ',').any fun req =>
          decide (req ∈ parseMediaParamList expect '\n')

/-- A key that is missing suits a product that has no text for it. -/
def acceptRule (map : List (ParamString × ParamString)) (key : ParamString)
    (expect : Option ParamString) : Bool :=
  if key ∈ map.map Prod.fst then
    decide (assign map key = []) || hasIntersection (assign map key) expect
  else expect.isNone

def MediaFactory.acceptRules (factory : MediaFactory) (rules : ParamString) :
    Bool :=
  let map := (lines '\n' rules).map (readEntry '=')
  acceptRule map keyInputDataType factory.expectedInputDataType &&
    acceptRule map keyOutputDataType factory.outPutDataType

/-- The empty rule of a missing type is `none`. -/
def genDatatypeRule (params : ParamMap) : Option ParamString :=
  if params keyInputDataType = [] then none
  else if params keyOutputDataType = [] then none
  else
    some (writeText '\n' '='
      [(keyInputDataType, params keyInputDataType),
        (keyOutputDataType, params keyOutputDataType)])

/-- `IsMatch` of a reflector with the factories that are registered. -/
def isMatch (factories : List (ParamString × MediaFactory))
    (identifier rules : ParamString) : Bool :=
  match factories.find? fun entry => entry.1 = identifier with
  | none => false
  | some entry => entry.2.acceptRules rules

end RkaiqToolServer
