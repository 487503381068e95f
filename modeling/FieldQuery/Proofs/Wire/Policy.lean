/-
How policies are made and kept. Whatever steps a caller takes, and whatever document is read, the escape character of
the policy is no wildcard: a step or a document that asks for one is refused, and a refused step leaves the policy as
it was. In every format whose objects show the parts of a policy, what is written of a policy is read as that policy
again.
-/
import FieldQuery.Wire.Codec

namespace FieldQuery

namespace Policy

/-! ## Escape characters -/

theorem isWildcard_iff {c : Char} : LikePattern.isWildcard c = true ↔ c = '%' ∨ c = '_' := by
  simp [LikePattern.isWildcard]

theorem not_wildcard_iff {c : Char} : LikePattern.isWildcard c = false ↔ c ≠ '%' ∧ c ≠ '_' := by
  rw [← Bool.not_eq_true, isWildcard_iff, not_or]

theorem withLikeEscape_of_wildcard (p : Policy) {c : Char} (h : LikePattern.isWildcard c = true) :
    p.withLikeEscape c = .error (.wildcardEscape c) := by
  rw [withLikeEscape, dif_neg]
  rw [h]
  exact Bool.noConfusion

theorem withLikeEscape_of_literal (p : Policy) {c : Char} (h : LikePattern.isWildcard c = false) :
    p.withLikeEscape c = .ok ⟨p.notIn, c, h⟩ := dif_pos h

theorem withLikeEscape_refused_iff {p : Policy} {c : Char} {e : PolicyError} :
    p.withLikeEscape c = .error e ↔ (c = '%' ∨ c = '_') ∧ e = .wildcardEscape c := by
  rw [← isWildcard_iff]
  cases h : LikePattern.isWildcard c with
  | true =>
    rw [p.withLikeEscape_of_wildcard h, Except.error.injEq, eq_comm]
    exact (and_iff_right rfl).symm
  | false =>
    rw [p.withLikeEscape_of_literal h]
    exact ⟨nofun, nofun⟩

theorem withLikeEscape_eq_ok_iff {p q : Policy} {c : Char} :
    p.withLikeEscape c = .ok q ↔ ¬(c = '%' ∨ c = '_') ∧ q.notIn = p.notIn ∧ q.likeEscape = c := by
  rw [← isWildcard_iff, Bool.not_eq_true]
  constructor
  · intro h
    cases hc : LikePattern.isWildcard c with
    | true =>
      rw [p.withLikeEscape_of_wildcard hc] at h
      cases h
    | false =>
      rw [p.withLikeEscape_of_literal hc] at h
      cases h
      exact ⟨rfl, rfl, rfl⟩
  · rintro ⟨hc, hmode, hescape⟩
    obtain ⟨mode, escape, hliteral⟩ := q
    cases hmode
    cases hescape
    exact p.withLikeEscape_of_literal hc

/-! ## Runs of steps -/

/-- A step of a caller who sets up a policy. -/
inductive Step where
  | exclude (mode : NotInMode)
  | escape (c : Char)

/-- The meaning of exclusion that a step sets. -/
def Step.mode? : Step → Option NotInMode
  | exclude mode => some mode
  | escape _ => none

/-- The escape character that a step sets; a wildcard is refused. -/
def Step.escape? : Step → Option Char
  | exclude _ => none
  | escape c => if LikePattern.isWildcard c then none else some c

/-- The policy after a step: a refused escape character leaves it as it is. -/
def attempt (p : Policy) : Step → Policy
  | .exclude mode => p.withNotIn mode
  | .escape c =>
    match p.withLikeEscape c with
    | .ok q => q
    | .error _ => p

/-- The policy after steps one after the other. -/
def attemptAll (p : Policy) (steps : List Step) : Policy := steps.foldl attempt p

theorem attempt_refused (p : Policy) {c : Char} (h : LikePattern.isWildcard c = true) :
    p.attempt (.escape c) = p := by
  simp only [attempt, withLikeEscape_of_wildcard p h]

theorem attempt_taken (p : Policy) {c : Char} (h : LikePattern.isWildcard c = false) :
    p.attempt (.escape c) = ⟨p.notIn, c, h⟩ := by
  simp only [attempt, withLikeEscape_of_literal p h]

theorem attempt_parts (p : Policy) (step : Step) :
    (p.attempt step).notIn = step.mode?.getD p.notIn ∧ (p.attempt step).likeEscape = step.escape?.getD p.likeEscape := by
  cases step with
  | exclude mode => exact ⟨rfl, rfl⟩
  | escape c =>
    cases h : LikePattern.isWildcard c with
    | true =>
      rw [p.attempt_refused h, Step.escape?, if_pos h]
      exact ⟨rfl, rfl⟩
    | false =>
      rw [p.attempt_taken h, Step.escape?, h]
      exact ⟨rfl, rfl⟩

/-- What is last after more parts are put in front. -/
theorem getLastD_filterMap_cons {α β : Type} (f : α → Option β) (a : α) (rest : List α) (standard : β) :
    ((a :: rest).filterMap f).getLastD standard = (rest.filterMap f).getLastD ((f a).getD standard) := by
  cases h : f a with
  | none => rw [List.filterMap_cons_none h, Option.getD_none]
  | some b => rw [List.filterMap_cons_some h, List.getLastD_cons, Option.getD_some]

/-- After a run of steps the meaning of exclusion is the last one set, and the escape character the last one that was
not refused. -/
theorem attemptAll_parts (steps : List Step) : ∀ p : Policy,
    (p.attemptAll steps).notIn = (steps.filterMap Step.mode?).getLastD p.notIn ∧
      (p.attemptAll steps).likeEscape = (steps.filterMap Step.escape?).getLastD p.likeEscape := by
  induction steps with
  | nil => exact fun _ => ⟨rfl, rfl⟩
  | cons step rest ih =>
    intro p
    obtain ⟨hmode, hescape⟩ := p.attempt_parts step
    rw [getLastD_filterMap_cons, getLastD_filterMap_cons, ← hmode, ← hescape]
    exact ih (p.attempt step)

/-! ## Documents -/

/-- The policy that is made of a document has the parts that the document describes. -/
theorem ofDocument_eq_ok_iff {d : PolicyDocument} {p : Policy} :
    ofDocument d = .ok p ↔ d = ⟨p.notIn, p.likeEscape⟩ := by
  rw [ofDocument, withLikeEscape_eq_ok_iff]
  constructor
  · rintro ⟨-, hmode, hescape⟩
    rw [hmode, hescape]
    rfl
  · rintro rfl
    refine ⟨?_, rfl, rfl⟩
    rw [← isWildcard_iff, p.escape_literal]
    exact Bool.false_ne_true

theorem ofDocument_of_wildcard {d : PolicyDocument} (h : LikePattern.isWildcard d.likeEscape = true) :
    ofDocument d = .error (.wildcardEscape d.likeEscape) := withLikeEscape_of_wildcard _ h

end Policy

namespace PolicyFormat

variable {δ : Type} (format : PolicyFormat δ)

/-- The members of a document that gives some of the parts of a policy: a meaning of exclusion by its name, and an
escape character as a text. -/
def members (mode : Option NotInMode) (escape : Option Char) : List (String × δ) :=
  (mode.map fun mode => ("not_in", format.text mode.name)).toList ++
    (escape.map fun c => ("like_escape", format.text (String.ofList [c]))).toList

/-- What is assumed of a format: its writer and its reader are derived from the fields of policies and of policy
documents. -/
structure Derived : Prop where
  /-- A policy is written as an object with one member for each field, a choice as its name, a character as a text. -/
  write_eq : ∀ p, format.write p =
    format.object [("not_in", format.text p.notIn.name), ("like_escape", format.text (String.ofList [p.likeEscape]))]
  /-- An object with some of these members is parsed to the parts they give; a missing one takes the standard value. -/
  parse_object : ∀ mode escape, format.parse (format.object (format.members mode escape)) =
    some ⟨mode.getD PolicyDocument.standard.notIn, escape.getD PolicyDocument.standard.likeEscape⟩

variable {format} {document : δ} {d : PolicyDocument} {p : Policy}

theorem read_eq_ok_iff : format.read document = .ok p ↔ format.parse document = some ⟨p.notIn, p.likeEscape⟩ := by
  unfold read
  cases format.parse document with
  | none => exact ⟨nofun, nofun⟩
  | some d =>
    show (Policy.ofDocument d).mapError Policy.DocumentError.refused = .ok p ↔ _
    rw [Option.some_inj, ← Policy.ofDocument_eq_ok_iff]
    cases Policy.ofDocument d with
    | error e => exact ⟨nofun, nofun⟩
    | ok q => exact ⟨fun h => congrArg _ (Except.ok.inj h), fun h => congrArg _ (Except.ok.inj h)⟩

theorem read_of_wildcard (h : format.parse document = some d) (hd : LikePattern.isWildcard d.likeEscape = true) :
    format.read document = .error (.refused (.wildcardEscape d.likeEscape)) := by
  unfold read
  simp only [h, Policy.ofDocument_of_wildcard hd]
  rfl

theorem read_of_literal (h : format.parse document = some d) (hd : LikePattern.isWildcard d.likeEscape = false) :
    format.read document = .ok ⟨d.notIn, d.likeEscape, hd⟩ := read_eq_ok_iff.2 h

theorem parse_write (hderived : format.Derived) (p : Policy) :
    format.parse (format.write p) = some ⟨p.notIn, p.likeEscape⟩ := by
  rw [hderived.write_eq]
  exact hderived.parse_object (some p.notIn) (some p.likeEscape)

end PolicyFormat

/-! ## JSON -/

theorem Json.char?_ofList (c : Char) : (Json.string (String.ofList [c])).char? = some c := by
  simp only [char?, String.toList_ofList]

theorem NotInMode.choice?_name (mode : NotInMode) : Json.choice? all name (.string mode.name) = some mode := by
  cases mode <;> rfl

theorem PolicyDocument.part?_map {α : Type} {standard : α} {read : Json → Option α} {write : α → Json}
    (h : ∀ a, read (write a) = some a) (part : Option α) :
    part? standard read (part.map write) = some (part.getD standard) := by
  cases part with
  | none => rfl
  | some a => exact h a

namespace Policy

theorem single?_members (mode : Option NotInMode) (escape : Option Char) :
    Json.single? "not_in" (jsonFormat.members mode escape) = some (mode.map fun mode => .string mode.name) ∧
      Json.single? "like_escape" (jsonFormat.members mode escape) =
        some (escape.map fun c => .string (String.ofList [c])) := by
  cases mode <;> cases escape <;> exact ⟨rfl, rfl⟩

theorem derived_jsonFormat : jsonFormat.Derived where
  write_eq _ := rfl
  parse_object mode escape := by
    obtain ⟨hmode, hescape⟩ := single?_members mode escape
    show PolicyDocument.ofJson? (.object _) = _
    unfold PolicyDocument.ofJson? PolicyDocument.parts?
    simp only [hmode, hescape, PolicyDocument.part?_map NotInMode.choice?_name,
      PolicyDocument.part?_map Json.char?_ofList]

/-! ## Valid policies -/

/-- No policy has a wildcard as escape character, and every policy survives writing and reading. A run of steps ends
with the last parts set that were not refused; a document is read as the policy it describes, and refused if the
escape character it describes is a wildcard. -/
theorem valid_and_restored {δ : Type} {format : PolicyFormat δ} (hderived : format.Derived) :
    (∀ steps : List Step,
      ((standard.attemptAll steps).likeEscape ≠ '%' ∧ (standard.attemptAll steps).likeEscape ≠ '_') ∧
      (standard.attemptAll steps).notIn = (steps.filterMap Step.mode?).getLastD .complement ∧
      (standard.attemptAll steps).likeEscape = (steps.filterMap Step.escape?).getLastD '\\') ∧
    (∀ document p, format.read document = .ok p →
      (p.likeEscape ≠ '%' ∧ p.likeEscape ≠ '_') ∧ format.parse document = some ⟨p.notIn, p.likeEscape⟩) ∧
    (∀ document d, format.parse document = some d →
      if d.likeEscape = '%' ∨ d.likeEscape = '_' then
        format.read document = .error (.refused (.wildcardEscape d.likeEscape))
      else ∃ p, format.read document = .ok p ∧ p.notIn = d.notIn ∧ p.likeEscape = d.likeEscape) ∧
    (∀ (p : Policy) c,
      (∀ e, p.withLikeEscape c = .error e ↔ (c = '%' ∨ c = '_') ∧ e = .wildcardEscape c) ∧
      ∀ q, p.withLikeEscape c = .ok q ↔ ¬(c = '%' ∨ c = '_') ∧ q.notIn = p.notIn ∧ q.likeEscape = c) ∧
    ∀ p : Policy, format.read (format.write p) = .ok p := by
  have hvalid (p : Policy) : p.likeEscape ≠ '%' ∧ p.likeEscape ≠ '_' := not_wildcard_iff.1 p.escape_literal
  refine ⟨?steps, ?documents, ?described, ?escapes, ?restored⟩
  case steps => exact fun steps => ⟨hvalid _, attemptAll_parts steps standard⟩
  case documents => exact fun document p h => ⟨hvalid p, PolicyFormat.read_eq_ok_iff.1 h⟩
  case described =>
    intro document d h
    split
    case isTrue hc => exact PolicyFormat.read_of_wildcard h (isWildcard_iff.2 hc)
    case isFalse hc => exact ⟨_, PolicyFormat.read_of_literal h (not_wildcard_iff.2 (not_or.1 hc)), rfl, rfl⟩
  case escapes => exact fun p c => ⟨fun e => withLikeEscape_refused_iff, fun q => withLikeEscape_eq_ok_iff⟩
  case restored => exact fun p => PolicyFormat.read_eq_ok_iff.2 (PolicyFormat.parse_write hderived p)

/-- In JSON, a wildcard asked for after another escape character changes nothing, and a document that asks for one is
refused; the policy that is left is read from what is written of it. -/
theorem valid_and_restored_json :
    let p := standard.attemptAll [.escape '!', .exclude .backendNegation, .escape '%']
    jsonFormat.Derived ∧ (p.notIn = .backendNegation ∧ p.likeEscape = '!') ∧
      ofJson (.object [("like_escape", .string "%")]) = .error (.refused (.wildcardEscape '%')) ∧
      ofJson p.toJson = .ok p ∧ p.likeEscape ≠ '%' := by
  intro p
  obtain ⟨hsteps, hdocuments, hdescribed, -, hrestored⟩ := valid_and_restored derived_jsonFormat
  have hread : ofJson p.toJson = .ok p := hrestored p
  have hwildcard : jsonFormat.parse (.object [("like_escape", .string "%")]) = some ⟨.complement, '%'⟩ :=
    derived_jsonFormat.parse_object none (some '%')
  exact ⟨derived_jsonFormat, (hsteps [.escape '!', .exclude .backendNegation, .escape '%']).2,
    hdescribed _ _ hwildcard, hread, (hdocuments _ _ hread).1.1⟩

end Policy

end FieldQuery
