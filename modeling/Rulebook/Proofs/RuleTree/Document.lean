import Rulebook.RuleTree.Document

/-!
The JSON forms of a rule, and that one fault spoils them.

A form consists of named parts, as an object or as an array. What a document is follows from its
parts alone, so the same equations tell what becomes of a form and of one with a part that is
missing or wrong.

* `Json.Packs`: a value consists of named parts.
* `Condition.Form`, `RuleTree.Form`: the forms of a condition and of a rule.
* `Condition.Spoiled`, `RuleTree.Spoiled`: the forms with one fault, at any depth.
* `Condition.ofJson?_of_packs`, `RuleTree.ofJsonAt?_of_packs_leaf`,
  `RuleTree.ofJsonAt?_of_packs_node`: what is read from parts.
* `RuleTree.forms_are_exact`: every form of a rule is read as that rule, what is written for it is
  one of them, and none with a fault is read at all.
-/

namespace Rulebook

/-! ### Parts -/

namespace Json

variable {members : List (String × Json)} {name : String} {part : Option Json}

/-- One member goes by a name and holds the part, or none does if the part is missing. -/
def Gives (members : List (String × Json)) (name : String) (part : Option Json) : Prop :=
  members.filter (·.1 = name) = part.toList.map (name, ·)

/-- The named parts of a condition. -/
def conditionParts (field sign value : Option Json) : List (String × Option Json) :=
  [("field", field), ("operator", sign), ("value", value)]

/-- The named parts of a rule that is a condition. -/
def leafParts (type value : Option Json) : List (String × Option Json) :=
  [("type", type), ("value", value)]

/-- The named parts of a rule that joins two others. -/
def nodeParts (type op left right : Option Json) : List (String × Option Json) :=
  [("type", type), ("operator", op), ("left", left), ("right", right)]

/-- `Packs parts j`: the value `j` consists of named parts, some of which may be missing. -/
inductive Packs (parts : List (String × Option Json)) : Json → Prop where
  /-- As members of an object, in any order and with any others between them. -/
  | object {members : List (String × Json)} : (∀ part ∈ parts, Gives members part.1 part.2) →
      Packs parts (.object members)
  /-- As the items of an array in the order of the parts, none of which is missing. -/
  | array {items : List Json} : parts.map (·.2) = items.map some → Packs parts (.array items)

theorem once?_of_gives (h : Gives members name part) : once? name members = part := by
  unfold once?
  rw [show members.filter (·.1 = name) = _ from h]
  cases part <;> rfl

/-- The first item of an array is the first part, and the others are the others. -/
theorem exists_first_item {parts : List (Option Json)} {items : List Json}
    (h : part :: parts = items.map some) :
    ∃ item rest, items = item :: rest ∧ part = some item ∧ parts = rest.map some := by
  cases items with
  | nil => cases h
  | cons item rest => exact ⟨item, rest, rfl, List.cons.inj h⟩

end Json

namespace RuleTree

theorem memberTrees_eq_map (members : List (String × Json)) :
    memberTrees members = members.map fun m => (m.1, ofJsonAt? .inside m.2) := by
  induction members with
  | nil => rfl
  | cons m rest ih => rw [memberTrees, ih, List.map_cons]

theorem itemTrees_eq_map (items : List Json) : itemTrees items = items.map (ofJsonAt? .inside) := by
  induction items with
  | nil => rfl
  | cons item rest ih => rw [itemTrees, ih, List.map_cons]

/-- The rule of a member is that of the part that it holds. -/
theorem once?_memberTrees {members : List (String × Json)} {name : String} {part : Option Json}
    (h : Json.Gives members name part) :
    Json.once? name (memberTrees members) = part.map (ofJsonAt? .inside) := by
  have found : (memberTrees members).filter (·.1 = name) =
      (members.filter (·.1 = name)).map fun m => (m.1, ofJsonAt? .inside m.2) := by
    rw [memberTrees_eq_map, List.filter_map]
    rfl
  unfold Json.once?
  rw [found, show members.filter (·.1 = name) = _ from h]
  cases part <;> rfl

end RuleTree

/-! ### What is read from parts -/

/-- **A condition is read from its three parts,** however they are packed. -/
theorem Condition.ofJson?_of_packs {standing : Standing} {field sign value : Option Json} {j : Json}
    (h : Json.Packs (Json.conditionParts field sign value) j) :
    Condition.ofJson? standing j = (do
      let field ← field.bind Json.text?
      let comparison ← sign.bind (Comparison.ofJson? standing)
      let value ← value.bind Json.text?
      some { field, comparison, value }) := by
  have read : Condition.ofJson? standing j = (do ofParts? standing (← field) (← sign) (← value)) := by
    cases h with
    | object given =>
      simp only [Json.conditionParts, List.forall_mem_cons] at given
      obtain ⟨field, sign, value, -⟩ := given
      simp only [Condition.ofJson?, Json.once?_of_gives field, Json.once?_of_gives sign,
        Json.once?_of_gives value]
    | array same =>
      obtain ⟨field, afterField, rfl, rfl, behindField⟩ := Json.exists_first_item same
      obtain ⟨sign, afterSign, rfl, rfl, behindSign⟩ := Json.exists_first_item behindField
      obtain ⟨value, afterValue, rfl, rfl, behindValue⟩ := Json.exists_first_item behindSign
      obtain rfl := List.map_eq_nil_iff.mp behindValue.symm
      rfl
  rw [read]
  cases field <;> cases sign <;> cases value <;> simp [ofParts?]

namespace RuleTree

/-- Without a type nothing is read. -/
theorem ofJsonAt?_of_packs_unknown {standing : Standing} {type : Option Json}
    {parts : List (String × Option Json)} {j : Json} (h : Json.Packs (("type", type) :: parts) j)
    (unknown : type.bind (kind? standing) = none) : ofJsonAt? standing j = none := by
  cases h with
  | object given =>
    have first := Json.once?_of_gives (given _ List.mem_cons_self)
    simp only [ofJsonAt?, ofMembers?, first, Option.bind_eq_bind, ← Option.bind_assoc, unknown,
      Option.bind_none]
  | array same =>
    obtain ⟨first, items, rfl, rfl, -⟩ := Json.exists_first_item same
    have unknown : kind? standing first = none := unknown
    simp [ofJsonAt?, ofItems?, unknown]

/-- **An operand is the condition that its value is.** -/
theorem ofJsonAt?_of_packs_leaf {standing : Standing} {type : Json} {value : Option Json} {j : Json}
    (h : Json.Packs (Json.leafParts (some type) value) j)
    (operand : kind? standing type = some .operand) :
    ofJsonAt? standing j = (value.bind (Condition.ofJson? .inside)).map leaf := by
  have read : ofJsonAt? standing j = value.bind leafOfPart? := by
    cases h with
    | object given =>
      simp only [Json.leafParts, List.forall_mem_cons] at given
      obtain ⟨type, value, -⟩ := given
      simp [ofJsonAt?, ofMembers?, Json.once?_of_gives type, Json.once?_of_gives value, operand]
    | array same =>
      obtain ⟨type, afterType, rfl, isType, behindType⟩ := Json.exists_first_item same
      obtain rfl := Option.some.inj isType
      obtain ⟨value, afterValue, rfl, rfl, behindValue⟩ := Json.exists_first_item behindType
      obtain rfl := List.map_eq_nil_iff.mp behindValue.symm
      simp [ofJsonAt?, ofItems?, operand]
  rw [read]
  cases value <;> rfl

/-- **An operator joins the rules that its two sides are.** -/
theorem ofJsonAt?_of_packs_node {standing : Standing} {type : Json} {op left right : Option Json}
    {j : Json} (h : Json.Packs (Json.nodeParts (some type) op left right) j)
    (operator : kind? standing type = some .operator) :
    ofJsonAt? standing j = (do
      let op ← op.bind (Connective.ofJson? .inside)
      let left ← left.bind (ofJsonAt? .inside)
      let right ← right.bind (ofJsonAt? .inside)
      some (node op left right)) := by
  have read : ofJsonAt? standing j = (do
      nodeOfParts? (← op) (← left.map (ofJsonAt? .inside)) (← right.map (ofJsonAt? .inside))) := by
    cases h with
    | object given =>
      simp only [Json.nodeParts, List.forall_mem_cons] at given
      obtain ⟨type, op, left, right, -⟩ := given
      simp [ofJsonAt?, ofMembers?, Json.once?_of_gives type, Json.once?_of_gives op,
        once?_memberTrees left, once?_memberTrees right, operator]
    | array same =>
      obtain ⟨type, afterType, rfl, isType, behindType⟩ := Json.exists_first_item same
      obtain rfl := Option.some.inj isType
      obtain ⟨op, afterOp, rfl, rfl, behindOp⟩ := Json.exists_first_item behindType
      obtain ⟨left, afterLeft, rfl, rfl, behindLeft⟩ := Json.exists_first_item behindOp
      obtain ⟨right, afterRight, rfl, rfl, behindRight⟩ := Json.exists_first_item behindLeft
      obtain rfl := List.map_eq_nil_iff.mp behindRight.symm
      simp [ofJsonAt?, ofItems?, operator, itemTrees_eq_map]
  rw [read]
  cases op <;> cases left <;> cases right <;> simp [nodeOfParts?]

end RuleTree

/-! ### Forms -/

/-- `c.Form j`: the value `j` is a form of the condition `c`. -/
def Condition.Form (c : Condition) (j : Json) : Prop :=
  Json.Packs (Json.conditionParts (some (.string c.field)) (some (.string c.comparison.symbol))
    (some (.string c.value))) j

/-- `t.Form j`: the value `j` is a form of the rule `t`. -/
def RuleTree.Form : RuleTree → Json → Prop
  | leaf c, j => ∃ value, c.Form value ∧
      Json.Packs (Json.leafParts (some (.string "operand")) (some value)) j
  | node op left right, j => ∃ l r, left.Form l ∧ right.Form r ∧
      Json.Packs (Json.nodeParts (some (.string "operator")) (some (.string op.keyword)) (some l)
        (some r)) j

/-! ### Forms with a fault -/

namespace Json

/-- A part that should be one of some words is missing, or is another string. -/
inductive Misspelt (words : List String) : Option Json → Prop where
  | missing : Misspelt words none
  | word {s : String} : s ∉ words → Misspelt words (some (.string s))

/-- A part that should be a string is missing, or is something else. -/
def NoText (part : Option Json) : Prop := ∀ s, part ≠ some (.string s)

/-- Whether a value has neither items nor members. -/
def isScalar : Json → Bool
  | array _ => false
  | object _ => false
  | _ => true

/-- A part that should have parts itself is missing, or has none. -/
def NoParts (part : Option Json) : Prop := ∀ value ∈ part, isScalar value = true

/-- A misspelt part is not read where only the right words are. -/
theorem Misspelt.bind_eq_none {α : Type} {read : Json → Option α} {words : List String}
    {part : Option Json} (h : Misspelt words part)
    (listed : ∀ s a, read (.string s) = some a → s ∈ words) : part.bind read = none := by
  cases h with
  | missing => rfl
  | word other => exact Option.eq_none_iff_forall_ne_some.mpr fun a found => other (listed _ a found)

theorem NoText.bind_eq_none {part : Option Json} (h : NoText part) : part.bind text? = none := by
  cases part with
  | none => rfl
  | some value =>
    cases value with
    | string s => exact absurd rfl (h s)
    | _ => rfl

/-- A part without parts is not read where no scalar is. -/
theorem NoParts.bind_eq_none {α : Type} {read : Json → Option α} {part : Option Json}
    (h : NoParts part) (scalar : ∀ value, isScalar value = true → read value = none) :
    part.bind read = none := by
  cases part with
  | none => rfl
  | some value => exact scalar value (h value rfl)

end Json

/-- `c.Spoiled j`: the value `j` is a form of the condition `c` but for one part. -/
inductive Condition.Spoiled (c : Condition) : Json → Prop where
  | field {part : Option Json} {j : Json} : Json.NoText part →
      Json.Packs (Json.conditionParts part (some (.string c.comparison.symbol))
        (some (.string c.value))) j → Spoiled c j
  | sign {part : Option Json} {j : Json} : Json.Misspelt [">", "<", "="] part →
      Json.Packs (Json.conditionParts (some (.string c.field)) part (some (.string c.value))) j →
      Spoiled c j
  | value {part : Option Json} {j : Json} : Json.NoText part →
      Json.Packs (Json.conditionParts (some (.string c.field))
        (some (.string c.comparison.symbol)) part) j → Spoiled c j

/-- `t.Spoiled j`: the value `j` is a form of the rule `t` but for one part, at any depth. -/
inductive RuleTree.Spoiled : RuleTree → Json → Prop where
  | operandType {c : Condition} {value j : Json} {part : Option Json} : c.Form value →
      Json.Misspelt ["operand", "operator"] part →
      Json.Packs (Json.leafParts part (some value)) j → Spoiled (leaf c) j
  | noCondition {c : Condition} {part : Option Json} {j : Json} : Json.NoParts part →
      Json.Packs (Json.leafParts (some (.string "operand")) part) j → Spoiled (leaf c) j
  | inCondition {c : Condition} {value j : Json} : c.Spoiled value →
      Json.Packs (Json.leafParts (some (.string "operand")) (some value)) j → Spoiled (leaf c) j
  | operatorType {op : Connective} {left right : RuleTree} {l r j : Json} {part : Option Json} :
      left.Form l → right.Form r → Json.Misspelt ["operand", "operator"] part →
      Json.Packs (Json.nodeParts part (some (.string op.keyword)) (some l) (some r)) j →
      Spoiled (node op left right) j
  | connective {op : Connective} {left right : RuleTree} {l r j : Json} {part : Option Json} :
      left.Form l → right.Form r → Json.Misspelt ["AND", "OR"] part →
      Json.Packs (Json.nodeParts (some (.string "operator")) part (some l) (some r)) j →
      Spoiled (node op left right) j
  | noLeft {op : Connective} {left right : RuleTree} {r j : Json} {part : Option Json} :
      right.Form r → Json.NoParts part →
      Json.Packs (Json.nodeParts (some (.string "operator")) (some (.string op.keyword)) part
        (some r)) j → Spoiled (node op left right) j
  | noRight {op : Connective} {left right : RuleTree} {l j : Json} {part : Option Json} :
      left.Form l → Json.NoParts part →
      Json.Packs (Json.nodeParts (some (.string "operator")) (some (.string op.keyword)) (some l)
        part) j → Spoiled (node op left right) j
  | inLeft {op : Connective} {left right : RuleTree} {l r j : Json} : Spoiled left l →
      right.Form r →
      Json.Packs (Json.nodeParts (some (.string "operator")) (some (.string op.keyword)) (some l)
        (some r)) j → Spoiled (node op left right) j
  | inRight {op : Connective} {left right : RuleTree} {l r j : Json} : left.Form l →
      Spoiled right r →
      Json.Packs (Json.nodeParts (some (.string "operator")) (some (.string op.keyword)) (some l)
        (some r)) j → Spoiled (node op left right) j

/-! ### Conditions -/

namespace Comparison

theorem ofJson?_symbol (standing : Standing) (c : Comparison) :
    ofJson? standing (.string c.symbol) = some c :=
  ofSymbol?_eq_some_iff.mpr rfl

theorem ofJson?_of_misspelt {standing : Standing} {part : Option Json}
    (h : Json.Misspelt [">", "<", "="] part) : part.bind (ofJson? standing) = none := by
  refine h.bind_eq_none fun s c read => ?_
  obtain rfl := ofSymbol?_eq_some_iff.mp read
  cases c <;> simp [symbol]

end Comparison

namespace Condition

variable {c : Condition} {standing : Standing} {j : Json}

theorem ofJson?_of_form (h : c.Form j) : ofJson? standing j = some c := by
  rw [ofJson?_of_packs h]
  simp [Json.text?, Comparison.ofJson?_symbol]

theorem form_toJson (c : Condition) : c.Form c.toJson := by
  refine .object fun part mem => ?_
  simp only [Json.conditionParts, List.mem_cons, List.not_mem_nil, or_false] at mem
  rcases mem with rfl | rfl | rfl <;> rfl

/-- Nothing without parts is a condition. -/
theorem ofJson?_of_isScalar {value : Json} (h : value.isScalar = true) :
    ofJson? standing value = none := by
  cases value with
  | array items => cases h
  | object members => cases h
  | _ => rfl

/-- A condition with a fault is none. -/
theorem ofJson?_of_spoiled (h : c.Spoiled j) : ofJson? standing j = none := by
  cases h with
  | field noText packs =>
    rw [ofJson?_of_packs packs, noText.bind_eq_none]
    rfl
  | sign misspelt packs =>
    rw [ofJson?_of_packs packs, Comparison.ofJson?_of_misspelt misspelt]
    simp
  | value noText packs =>
    rw [ofJson?_of_packs packs, noText.bind_eq_none]
    simp

end Condition

/-! ### Rules -/

namespace RuleTree

variable {t : RuleTree} {standing : Standing} {j : Json}

theorem kind?_operand (standing : Standing) : kind? standing (.string "operand") = some .operand := by
  cases standing <;> rfl

theorem kind?_operator (standing : Standing) :
    kind? standing (.string "operator") = some .operator := by
  cases standing <;> rfl

theorem kind?_of_misspelt {part : Option Json} (h : Json.Misspelt ["operand", "operator"] part) :
    part.bind (kind? standing) = none := by
  refine h.bind_eq_none fun s kind read => ?_
  unfold kind? at read
  split at read <;> simp_all

theorem connective_of_misspelt {part : Option Json} (h : Json.Misspelt ["AND", "OR"] part) :
    part.bind (Connective.ofJson? .inside) = none := by
  refine h.bind_eq_none fun s op read => ?_
  obtain rfl := Connective.ofKeyword?_eq_some_iff.mp read
  cases op <;> simp [Connective.keyword]

/-- Nothing without parts is a rule. -/
theorem ofJsonAt?_of_isScalar {value : Json} (h : value.isScalar = true) :
    ofJsonAt? standing value = none := by
  cases value with
  | array items => cases h
  | object members => cases h
  | _ => rfl

/-- **Every form of a rule is read as that rule.** -/
theorem ofJsonAt?_of_form (h : t.Form j) : ofJsonAt? standing j = some t := by
  induction t generalizing standing j with
  | leaf c =>
    obtain ⟨value, form, packs⟩ := h
    rw [ofJsonAt?_of_packs_leaf packs (kind?_operand standing)]
    simp [Condition.ofJson?_of_form form]
  | node op left right ihl ihr =>
    obtain ⟨l, r, formLeft, formRight, packs⟩ := h
    have keyword : Connective.ofJson? .inside (.string op.keyword) = some op :=
      Connective.ofKeyword?_eq_some_iff.mpr rfl
    rw [ofJsonAt?_of_packs_node packs (kind?_operator standing)]
    simp [keyword, ihl formLeft, ihr formRight]

/-- What is written for a rule is a form of it. -/
theorem form_toJson (t : RuleTree) : t.Form t.toJson := by
  induction t with
  | leaf c =>
    refine ⟨c.toJson, c.form_toJson, .object fun part mem => ?_⟩
    simp only [Json.leafParts, List.mem_cons, List.not_mem_nil, or_false] at mem
    rcases mem with rfl | rfl <;> rfl
  | node op left right ihl ihr =>
    refine ⟨left.toJson, right.toJson, ihl, ihr, .object fun part mem => ?_⟩
    simp only [Json.nodeParts, List.mem_cons, List.not_mem_nil, or_false] at mem
    rcases mem with rfl | rfl | rfl | rfl <;> rfl

/-- **A form with a fault is no rule,** at whatever depth the fault is. -/
theorem ofJsonAt?_of_spoiled (h : t.Spoiled j) : ofJsonAt? standing j = none := by
  induction h generalizing standing with
  | operandType _ misspelt packs =>
    exact ofJsonAt?_of_packs_unknown packs (kind?_of_misspelt misspelt)
  | operatorType _ _ misspelt packs =>
    exact ofJsonAt?_of_packs_unknown packs (kind?_of_misspelt misspelt)
  | noCondition noParts packs =>
    rw [ofJsonAt?_of_packs_leaf packs (kind?_operand standing),
      noParts.bind_eq_none fun _ => Condition.ofJson?_of_isScalar]
    rfl
  | inCondition spoiled packs =>
    rw [ofJsonAt?_of_packs_leaf packs (kind?_operand standing)]
    simp [Condition.ofJson?_of_spoiled spoiled]
  | connective _ _ misspelt packs =>
    rw [ofJsonAt?_of_packs_node packs (kind?_operator standing), connective_of_misspelt misspelt]
    rfl
  | noLeft _ noParts packs =>
    rw [ofJsonAt?_of_packs_node packs (kind?_operator standing)]
    simp [noParts.bind_eq_none fun _ => ofJsonAt?_of_isScalar]
  | noRight _ noParts packs =>
    rw [ofJsonAt?_of_packs_node packs (kind?_operator standing)]
    simp [noParts.bind_eq_none fun _ => ofJsonAt?_of_isScalar]
  | inLeft _ _ packs ih =>
    rw [ofJsonAt?_of_packs_node packs (kind?_operator standing)]
    simp [ih]
  | inRight _ _ packs ih =>
    rw [ofJsonAt?_of_packs_node packs (kind?_operator standing)]
    simp [ih]

/-- **The JSON forms of a rule are exact.** Every form of a rule is read as that rule, the one that is
written for it among them; a form with one fault, at whatever depth, is not read at all. -/
theorem forms_are_exact (t : RuleTree) :
    (∀ j, t.Form j → ofJson? j = some t) ∧ t.Form t.toJson ∧ ofJson? t.toJson = some t ∧
    (∀ j, t.Spoiled j → ofJson? j = none) :=
  ⟨fun _ => ofJsonAt?_of_form, t.form_toJson, ofJsonAt?_of_form t.form_toJson,
    fun _ => ofJsonAt?_of_spoiled⟩

/-- A rule with two conditions. -/
def eitherOr : RuleTree := .node .or (.leaf ⟨"age", .greater, "30"⟩) (.leaf ⟨"team", .equal, "it's"⟩)

/-- The first condition as an array inside an object, with its sign as given. -/
def ageForm (sign : String) : Json :=
  .object [("value", .array [.string "age", .string sign, .string "30"]), ("type", .string "operand")]

/-- The second condition as an object inside an array, with a member of no account. -/
def teamForm : Json :=
  .array [.string "operand", .object [("value", .string "it's"), ("note", .array []),
    ("operator", .string "="), ("field", .string "team")]]

/-- The rule as an object, its members out of order. -/
def eitherOrForm (sign : String) : Json :=
  .object [("right", teamForm), ("type", .string "operator"), ("left", ageForm sign),
    ("operator", .string "OR")]

/-- Mixed forms are read, and one wrong sign deep inside spoils them. -/
theorem eitherOrForm_read : eitherOr.Form (eitherOrForm ">") ∧
    ofJson? (eitherOrForm ">") = some eitherOr ∧ eitherOr.Spoiled (eitherOrForm ">=") ∧
    ofJson? (eitherOrForm ">=") = none := by
  have inArray (sign : String) : Json.Packs (Json.conditionParts (some (.string "age"))
      (some (.string sign)) (some (.string "30")))
      (.array [.string "age", .string sign, .string "30"]) := .array rfl
  have left (sign : String) : Json.Packs (Json.leafParts (some (.string "operand"))
      (some (.array [.string "age", .string sign, .string "30"]))) (ageForm sign) :=
    .object (by simp [Json.leafParts, Json.Gives])
  have right : (leaf ⟨"team", .equal, "it's"⟩).Form teamForm :=
    ⟨_, .object (by simp [Json.conditionParts, Json.Gives, Comparison.symbol]), .array rfl⟩
  have whole (sign : String) : Json.Packs (Json.nodeParts (some (.string "operator"))
      (some (.string Connective.or.keyword)) (some (ageForm sign)) (some teamForm))
      (eitherOrForm sign) :=
    .object (by simp [Json.nodeParts, Json.Gives, Connective.keyword])
  have form : eitherOr.Form (eitherOrForm ">") :=
    ⟨_, _, ⟨_, inArray ">", left ">"⟩, right, whole ">"⟩
  have spoiled : eitherOr.Spoiled (eitherOrForm ">=") :=
    .inLeft (.inCondition (.sign (.word (by decide)) (inArray ">=")) (left ">=")) right (whole ">=")
  have exact := forms_are_exact eitherOr
  exact ⟨form, exact.1 _ form, spoiled, exact.2.2.2 _ spoiled⟩

end RuleTree
end Rulebook
