import Mathlib.Logic.Basic
import Rulebook.Problem

/-!
# Reporting a problem and reporting its values directly

A response made from values tells the faults of all of them, in the order of its fields (`Response.ofValues_cases`). A
problem takes details that stand for nothing as no details, and checks nothing else before it is reported. So what is
sent about a problem of the general class is the response made from its values, except exactly where the details stand
for nothing and are no object (`Problem.response_make_eq_iff`); and the code of a problem whose class has one is never
at fault (`Problem.response_of_coded`).
-/

namespace Rulebook

namespace Json

def isText : Json → Bool
  | .str _ => true
  | _ => false

def isObject : Json → Bool
  | .obj _ => true
  | _ => false

theorem isText_iff {x : Json} : x.isText = true ↔ ∃ s, x = .str s := by
  cases x <;> simp [isText]

theorem isObject_iff {x : Json} : x.isObject = true ↔ ∃ members, x = .obj members := by
  cases x <;> simp [isObject]

theorem isText_ofText? {text : Option String} : (ofText? text).isText = text.isSome := by
  cases text <;> rfl

/-- The only object that stands for nothing is the empty one. -/
theorem eq_empty_of_isFalsy {x : Json} (falsy : x.isFalsy = true) (object : x.isObject = true) : x = .obj [] := by
  obtain ⟨members, rfl⟩ := isObject_iff.1 object
  rw [isFalsy, List.isEmpty_iff] at falsy
  rw [falsy]

end Json

/-! ### Responses made from values -/

namespace Response

variable {code message details : Json}

/-- The response with three given values, or the faults of those that are wrong. -/
def ofValues (code message details : Json) : Except (List Fault) Response :=
  ofChecks (Fault.checkText "code" (some code)) (Fault.checkText "message" (some message))
    (Fault.checkObject "details" (some details))

/-- The faults of values that are told as code, message and details. -/
def faults (code message details : Json) : List Fault :=
  (if code.isText then [] else [⟨"code", .notText⟩]) ++ (if message.isText then [] else [⟨"message", .notText⟩]) ++
    (if details.isObject then [] else [⟨"details", .notObject⟩])

theorem faults_eq_nil_iff :
    faults code message details = [] ↔ code.isText = true ∧ message.isText = true ∧ details.isObject = true := by
  simp [faults]

/-- Only a code that is no text is at fault for the code. -/
theorem isText_eq_false_of_mem_faults {f : Fault} (told : f ∈ faults code message details) (named : f.field = "code") :
    code.isText = false := by
  simp only [faults, List.mem_append, List.mem_ite_nil_left, List.mem_singleton, Bool.not_eq_true] at told
  rcases told with (⟨wrong, -⟩ | ⟨-, rfl⟩) | ⟨-, rfl⟩
  · exact wrong
  · exact absurd named (by decide)
  · exact absurd named (by decide)

theorem faults_of_not_isObject (wrong : details.isObject = false) :
    faults code message details = faults code message (.obj []) ++ [⟨"details", .notObject⟩] := by
  have right : (Json.obj []).isObject = true := rfl
  simp [faults, wrong, right]

theorem ofFields_eq_ofValues (code message details : Json) :
    ofFields (.ofPairs [("code", code), ("message", message), ("details", details)]) =
      ofValues code message details := rfl

theorem ofCheck_checkText (field : String) (value : Json) :
    Fault.ofCheck (Fault.checkText field (some value)) = if value.isText then [] else [⟨field, .notText⟩] := by
  cases value <;> rfl

theorem ofCheck_checkObject (field : String) (value : Json) :
    Fault.ofCheck (Fault.checkObject field (some value)) = if value.isObject then [] else [⟨field, .notObject⟩] := by
  cases value <;> rfl

/-- Checks of which one fails make no response, and all their faults are told. -/
theorem ofChecks_of_ne_nil {c m : Except Fault String} {d : Except Fault (List (String × Json))}
    (wrong : Fault.ofCheck c ++ Fault.ofCheck m ++ Fault.ofCheck d ≠ []) :
    ofChecks c m d = .error (Fault.ofCheck c ++ Fault.ofCheck m ++ Fault.ofCheck d) := by
  unfold ofChecks
  split
  · exact absurd rfl wrong
  · rfl

theorem ofValues_of_ne_nil (wrong : faults code message details ≠ []) :
    ofValues code message details = .error (faults code message details) := by
  have told : Fault.ofCheck (Fault.checkText "code" (some code)) ++
      Fault.ofCheck (Fault.checkText "message" (some message)) ++
        Fault.ofCheck (Fault.checkObject "details" (some details)) = faults code message details := by
    rw [ofCheck_checkText, ofCheck_checkText, ofCheck_checkObject, faults]
  rw [← told] at wrong ⊢
  exact ofChecks_of_ne_nil wrong

/-- Values make a response that has them, or else it is told which of them are wrong. -/
theorem ofValues_cases (code message details : Json) :
    (∃ r : Response, ofValues code message details = .ok r ∧
        code = .str r.code ∧ message = .str r.message ∧ details = .obj r.details) ∨
      faults code message details ≠ [] ∧ ofValues code message details = .error (faults code message details) := by
  by_cases right : faults code message details = []
  · obtain ⟨isCode, isMessage, isDetails⟩ := faults_eq_nil_iff.1 right
    obtain ⟨c, rfl⟩ := Json.isText_iff.1 isCode
    obtain ⟨m, rfl⟩ := Json.isText_iff.1 isMessage
    obtain ⟨d, rfl⟩ := Json.isObject_iff.1 isDetails
    exact Or.inl ⟨⟨c, m, d⟩, rfl, rfl, rfl, rfl⟩
  · exact Or.inr ⟨right, ofValues_of_ne_nil right⟩

theorem ofValues_eq_ok_iff {r : Response} :
    ofValues code message details = .ok r ↔
      code = .str r.code ∧ message = .str r.message ∧ details = .obj r.details := by
  constructor
  · intro made
    rcases ofValues_cases code message details with ⟨r', made', values⟩ | ⟨-, wrong⟩
    · rw [made] at made'
      cases made'
      exact values
    · rw [made] at wrong
      cases wrong
  · rintro ⟨rfl, rfl, rfl⟩
    rfl

theorem ofValues_eq_error_iff {told : List Fault} :
    ofValues code message details = .error told ↔ told ≠ [] ∧ told = faults code message details := by
  rcases ofValues_cases code message details with ⟨r, made, rfl, rfl, rfl⟩ | ⟨wrong, refused⟩
  · rw [made]
    refine iff_of_false nofun ?_
    rintro ⟨some, none⟩
    exact some none
  · rw [refused, Except.error.injEq, eq_comm]
    constructor
    · rintro rfl
      exact ⟨wrong, rfl⟩
    · exact And.right

end Response

/-! ### Problems -/

namespace Problem

open Response (ofValues faults)

variable {kind : ProblemClass} {code message details : Json} {fields : Fields Json} {p : Problem}

theorem response_eq_ofValues (p : Problem) : p.response = ofValues p.code p.message p.details := rfl

/-- A problem of the general class is made from any three values. -/
theorem ofFields_general (code message details : Json) :
    ofFields .general (.ofPairs [("code", code), ("message", message), ("details", details)]) =
      .ok (make .general code message details) := rfl

theorem response_make_of_isFalsy (falsy : details.isFalsy = true) :
    (make kind code message details).response = ofValues code message (.obj []) := by
  rw [response_eq_ofValues, make, if_pos falsy]

theorem response_make_of_not_isFalsy (solid : details.isFalsy = false) :
    (make kind code message details).response = ofValues code message details := by
  rw [response_eq_ofValues, make, if_neg (by rw [solid]; exact Bool.false_ne_true)]

/-- What is sent about a problem is the response made from its values, except exactly where details stand for nothing
and are no object. -/
theorem response_make_eq_iff :
    (make kind code message details).response = ofValues code message details ↔
      ¬(details.isFalsy = true ∧ details.isObject = false) := by
  cases falsy : details.isFalsy with
  | false => simp [response_make_of_not_isFalsy falsy]
  | true =>
    rw [response_make_of_isFalsy falsy]
    cases object : details.isObject with
    | true => simp [Json.eq_empty_of_isFalsy falsy object]
    | false =>
      -- the response made directly tells one fault more
      have more : faults code message details = faults code message (.obj []) ++ [⟨"details", .notObject⟩] :=
        Response.faults_of_not_isObject object
      have refused : ofValues code message details = .error (faults code message details) :=
        Response.ofValues_of_ne_nil (by rw [more]; simp)
      rw [refused]
      refine iff_of_false (fun same => ?_) (by simp)
      obtain ⟨-, told⟩ := Response.ofValues_eq_error_iff.1 same
      rw [more] at told
      exact absurd (congrArg List.length told) (by simp)

/-- A problem is made from values whose names are parameters of its class, and from those of its class instead of those
that are not given. -/
theorem ofFields_eq_ok (made : ofFields kind fields = .ok p) :
    (∀ name ∈ fields.names, name ∈ kind.parameters) ∧
      p = make kind ((fields.get? "code").getD (.ofText? kind.code?))
        ((fields.get? "message").getD (.ofText? kind.message?)) ((fields.get? "details").getD .null) := by
  unfold ofFields at made
  split at made
  · cases made
  · next known =>
    split at made
    · cases made
      rw [List.find?_eq_none] at known
      exact ⟨fun name given => by simpa using known name given, rfl⟩
    · cases made

/-- The code of a problem whose class has one is that code, and cannot be given. -/
theorem code_of_ofFields (coded : kind ≠ .general) (made : ofFields kind fields = .ok p) :
    p.code.isText = true ∧ p = make kind (.ofText? kind.code?) ((fields.get? "message").getD (.ofText? kind.message?))
      ((fields.get? "details").getD .null) := by
  obtain ⟨known, rfl⟩ := ofFields_eq_ok made
  have isCoded : kind.code?.isSome = true := by
    cases kind with
    | general => exact absurd rfl coded
    | driverCache => rfl
    | configuration => rfl
  have notGiven : fields.get? "code" = none := by
    rw [Fields.get?, List.lookup_eq_none_iff]
    intro q hq
    have := known q.1 (List.mem_map_of_mem hq)
    rw [ProblemClass.parameters, if_pos isCoded] at this
    simp only [List.mem_cons, List.not_mem_nil, or_false] at this
    rcases this with h | h <;> rw [h] <;> decide
  rw [notGiven]
  refine ⟨?_, rfl⟩
  exact Json.isText_ofText?.trans isCoded

/-- A problem whose class has a code is never at fault for it, and is reported unless its message is no text or its
details, though they stand for something, are no object. -/
theorem response_of_coded (coded : kind ≠ .general) (made : ofFields kind fields = .ok p) :
    let message := (fields.get? "message").getD (.ofText? kind.message?)
    let details := (fields.get? "details").getD .null
    (∀ told, p.response = .error told → ∀ f ∈ told, f.field ≠ "code") ∧
      ((∃ told, p.response = .error told) ↔
        message.isText = false ∨ details.isFalsy = false ∧ details.isObject = false) := by
  intro message details
  obtain ⟨isCode, rfl⟩ := code_of_ofFields coded made
  constructor
  · intro told failed f hf named
    rw [response_eq_ofValues, Response.ofValues_eq_error_iff] at failed
    rw [failed.2] at hf
    exact Bool.false_ne_true ((Response.isText_eq_false_of_mem_faults hf named).symm.trans isCode)
  · have failed : ∀ d, (∃ told, ofValues (.ofText? kind.code?) message d = .error told) ↔
        message.isText = false ∨ d.isObject = false := by
      intro d
      have isCode : (Json.ofText? kind.code?).isText = true := isCode
      simp only [Response.ofValues_eq_error_iff, exists_eq_right, ne_eq, Response.faults_eq_nil_iff, isCode, true_and,
        not_and_or, Bool.not_eq_true]
    cases falsy : details.isFalsy with
    | true =>
      rw [response_make_of_isFalsy falsy, failed]
      simp [Json.isObject]
    | false =>
      rw [response_make_of_not_isFalsy falsy, failed]
      simp

/-- From any three values a problem of the general class can be made, and what is sent about it is the response made
from the values directly, which has these values or tells the fault of each that is wrong, in the order of the fields;
the two differ exactly where the details stand for nothing and are no object, and then the problem is reported with
empty details. A problem whose class has a code is never at fault for it, and is reported unless its message is no text
or its details, though they stand for something, are no object. -/
theorem response_spec :
    (∀ code message details : Json,
      let fields := Fields.ofPairs [("code", code), ("message", message), ("details", details)]
      let direct := Response.ofFields fields
      (∀ r, direct = .ok r ↔ code = .str r.code ∧ message = .str r.message ∧ details = .obj r.details) ∧
        (∀ told, direct = .error told ↔ told ≠ [] ∧ told = faults code message details) ∧
        ∃ p, ofFields .general fields = .ok p ∧
          (p.response = direct ↔ ¬(details.isFalsy = true ∧ details.isObject = false)) ∧
          (details.isFalsy = true → p.response = ofValues code message (.obj []))) ∧
      ∀ (kind : ProblemClass) (fields : Fields Json) (p : Problem), kind ≠ .general → ofFields kind fields = .ok p →
        let message := (fields.get? "message").getD (.ofText? kind.message?)
        let details := (fields.get? "details").getD .null
        (∀ told, p.response = .error told → ∀ f ∈ told, f.field ≠ "code") ∧
          ((∃ told, p.response = .error told) ↔
            message.isText = false ∨ details.isFalsy = false ∧ details.isObject = false) := by
  refine ⟨fun code message details => ?_, fun kind fields p coded made => response_of_coded coded made⟩
  dsimp only
  rw [Response.ofFields_eq_ofValues]
  exact ⟨fun r => Response.ofValues_eq_ok_iff, fun told => Response.ofValues_eq_error_iff, _,
    ofFields_general code message details, response_make_eq_iff, response_make_of_isFalsy⟩

/-- A problem without a message of its own is reported although zero is given for its details, for which a response made
directly is refused; a list of details is refused in both. -/
theorem response_spec_zero :
    let zero := Fields.ofPairs [("code", Json.str "C"), ("message", Json.str "M"), ("details", Json.int 0)]
    let listed := Fields.ofPairs [("details", Json.arr [.int 0])]
    (∃ p, ofFields .general zero = .ok p ∧ p.response ≠ Response.ofFields zero ∧
        p.response = .ok ⟨"C", "M", []⟩) ∧
      ∃ p, ofFields .configuration listed = .ok p ∧
        ∃ told, p.response = .error told ∧ ∀ f ∈ told, f.field ≠ "code" := by
  intro zero listed
  obtain ⟨general, coded⟩ := response_spec
  obtain ⟨-, -, p, made, agrees, empties⟩ := general (.str "C") (.str "M") (.int 0)
  refine ⟨⟨p, made, ?_, empties rfl⟩, _, rfl, ?_⟩
  · rw [ne_eq, agrees, not_not]
    exact ⟨rfl, rfl⟩
  · obtain ⟨never, fails⟩ := coded .configuration listed _ nofun rfl
    obtain ⟨told, failed⟩ := fails.2 (Or.inr ⟨rfl, rfl⟩)
    exact ⟨told, failed, never told failed⟩

end Problem

end Rulebook
