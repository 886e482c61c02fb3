import LayoutRules.Proofs.Json.Written
import LayoutRules.Proofs.Tree.Built
import LayoutRules.Tree.Document

/-!
# Trees from their documents

A document keeps a tree but for the data in its slots. A decoder that looks at
the members for the name, the payload and the two children, and makes each
node anew, finds the tree again. So trees that differ have different
documents, and different texts in both layouts.
-/

namespace LayoutRules

namespace Json

/-- The value of the first member with a key. -/
def Members.get? (key : List Char) : Members → Option Value
  | .none => Option.none
  | .cons name value rest => if name = key then some value else rest.get? key

/-- The value that an object has for a key. -/
def Value.member? (key : String) : Value → Option Value
  | .object members => members.get? key.toList
  | _ => none

theorem Members.sizeOf_lt_of_get?
    {key : List Char} {members : Members} {value : Value}
    (h : members.get? key = some value) :
    sizeOf value < sizeOf members := by
  match members with
  | .none => cases h
  | .cons name first rest =>
      rw [get?] at h
      split at h
      case isTrue =>
        cases h
        simp +arith
      case isFalse =>
        have hlt := sizeOf_lt_of_get? h
        simp only [cons.sizeOf_spec]
        omega

/-- The members of an object are smaller than the object. -/
theorem Value.sizeOf_lt_of_member?
    {key : String} {object value : Value}
    (h : object.member? key = some value) :
    sizeOf value < sizeOf object := by
  cases object with
  | object members =>
      have hlt := Members.sizeOf_lt_of_get? h
      simp only [object.sizeOf_spec]
      omega
  | _ => cases h

/-- A member that may be absent hides the members behind it only if it is there. -/
theorem Members.get?_consOptional
    (key name : List Char)
    (value : Option Value)
    (rest : Members) :
    (consOptional name value rest).get? key =
      if name = key then value.or (rest.get? key) else rest.get? key := by
  cases value with
  | none => simp [consOptional]
  | some value => simp [consOptional, get?]

theorem Members.isFinite_consOptional
    (key : List Char)
    (value : Option Value)
    (rest : Members) :
    (consOptional key value rest).isFinite = (value.all Value.isFinite && rest.isFinite) := by
  cases value <;> rfl

end Json

namespace Category

/-- The category with a given name. -/
def ofName? (name : List Char) : Option Category :=
  all.find? fun category => category.name.toList == name

@[simp] theorem ofName?_name
    (category : Category) :
    ofName? category.name.toList = some category := by
  have hsome : (ofName? category.name.toList).isSome = true := by
    rw [ofName?, List.find?_isSome]
    exact ⟨category, mem_all category, beq_self_eq_true _⟩
  obtain ⟨found, hfound⟩ := Option.isSome_iff_exists.mp hsome
  have hname : found.name.toList = category.name.toList := by
    simpa using List.find?_some hfound
  rw [hfound, eq_of_name_eq (String.toList_injective hname)]

end Category

namespace Content

/-- The content of a category with a payload, or with none, of the right kind. -/
def ofPayload? : Category → Option Json.Value → Option Content
  | .attr, some (.text name) => some (.attr (String.ofList name))
  | .amount basis, some (.number value) => some (.amount basis value)
  | .coordinate basis, some (.text text) => some (.coordinate basis (String.ofList text))
  | .nil, none => some .nil
  | .operator op, none => some (.operator op)
  | _, _ => none

/-- The content that the name and the payload in a document describe. -/
def ofDocument? (value : Json.Value) : Option Content :=
  match value.member? "type" with
  | some (.text name) => do
      let category ← Category.ofName? name
      ofPayload? category (value.member? "value")
  | _ => none

/-- An amount is finite, and what has no number is too. -/
def isFinite : Content → Bool
  | .amount _ value => value.isFinite
  | _ => true

theorem ofPayload?_payloadDocument?
    {content : Content}
    (h : content.isFinite = true) :
    ofPayload? content.category content.payloadDocument? = some content := by
  cases content with
  | attr name => exact congrArg (some ∘ Content.attr) String.ofList_toList
  | amount basis value =>
      have hfinite : value.isFinite = true := h
      simp [payloadDocument?, hfinite, category, ofPayload?]
  | coordinate basis text => exact congrArg (some ∘ Content.coordinate basis) String.ofList_toList
  | nil => rfl
  | operator op => rfl

end Content

namespace Tree

variable {δ : Type}

/--
The tree that a document describes, made node by node. Of each object the
name, the payload and the children are looked at, and nothing else.
-/
def ofDocument? (value : Json.Value) : Option (Tree δ) :=
  match _ : value.member? "left", _ : value.member? "right" with
  | none, none => do
      let content ← Content.ofDocument? value
      (create content none none).toOption
  | some left, some right => do
      let content ← Content.ofDocument? value
      let left ← ofDocument? left
      let right ← ofDocument? right
      (create content (some left) (some right)).toOption
  | _, _ => none
termination_by sizeOf value
decreasing_by
  all_goals exact Json.Value.sizeOf_lt_of_member? (by assumption)

section Decoder

variable {value left right : Json.Value}

/-- Without children a document describes its content alone. -/
theorem ofDocument?_of_none
    (hleft : value.member? "left" = none)
    (hright : value.member? "right" = none) :
    (ofDocument? value : Option (Tree δ)) =
      (Content.ofDocument? value).bind fun content => (create content none none).toOption := by
  rw [ofDocument?]
  split
  case h_1 => rfl
  case h_2 hleft' hright' =>
    rw [hleft] at hleft'
    cases hleft'
  case h_3 hne hne' =>
    exact absurd hright (hne hleft)

/-- With two children a document describes a node over what they describe. -/
theorem ofDocument?_of_some
    (hleft : value.member? "left" = some left)
    (hright : value.member? "right" = some right) :
    (ofDocument? value : Option (Tree δ)) =
      (Content.ofDocument? value).bind fun content =>
        (ofDocument? left).bind fun first =>
          (ofDocument? right).bind fun second =>
            (create content (some first) (some second)).toOption := by
  rw [ofDocument?]
  split
  case h_1 hleft' hright' =>
    rw [hleft] at hleft'
    cases hleft'
  case h_2 hleft' hright' =>
    rw [hleft] at hleft'
    rw [hright] at hright'
    cases hleft'
    cases hright'
    rfl
  case h_3 hne hne' =>
    exact absurd hright (hne' left right hleft)

end Decoder

section Members

variable (tree : Tree δ)

@[simp] theorem document_code :
    tree.document.member? "code" = some (.natural tree.category.code) := by
  cases tree <;> rfl

@[simp] theorem document_type :
    tree.document.member? "type" = some (.text tree.category.name.toList) := by
  cases tree <;> rfl

@[simp] theorem document_value :
    tree.document.member? "value" = tree.content.payloadDocument? := by
  cases tree <;>
    simp [document, closingMembers, content, Json.Value.member?, Json.Members.get?,
      Json.Members.get?_consOptional]

@[simp] theorem document_left :
    tree.document.member? "left" = tree.left?.map document := by
  cases tree with
  | leaf content slot =>
      simp [document, closingMembers, left?, Json.Value.member?, Json.Members.get?,
        Json.Members.get?_consOptional]
  | branch content left right slot => rfl

@[simp] theorem document_right :
    tree.document.member? "right" = tree.right?.map document := by
  cases tree with
  | leaf content slot =>
      simp [document, closingMembers, right?, Json.Value.member?, Json.Members.get?,
        Json.Members.get?_consOptional]
  | branch content left right slot => rfl

end Members

/-- All amounts in a tree are finite. -/
def isFinite : Tree δ → Bool
  | .leaf content _ => content.isFinite
  | .branch content left right _ => content.isFinite && left.isFinite && right.isFinite

/-- A document has no number that is not finite, whatever the amounts in its tree are. -/
theorem closingMembers_isFinite
    (content : Content) :
    (closingMembers content).isFinite = true := by
  have hpayload : content.payloadDocument?.all Json.Value.isFinite = true := by
    cases content with
    | amount basis value =>
        cases hfinite : value.isFinite with
        | false => simp [Content.payloadDocument?, hfinite]
        | true => simp [Content.payloadDocument?, hfinite, Json.Value.isFinite]
    | _ => rfl
  rw [closingMembers, Json.Members.isFinite, Json.Members.isFinite_consOptional, hpayload]
  rfl

theorem document_isFinite
    (tree : Tree δ) :
    tree.document.isFinite = true := by
  induction tree with
  | leaf content slot =>
      simp [document, Json.Value.isFinite, Json.Members.isFinite, closingMembers_isFinite]
  | branch content left right slot ihLeft ihRight =>
      simp [document, Json.Value.isFinite, Json.Members.isFinite, closingMembers_isFinite, ihLeft,
        ihRight]

/-- The document of a tree describes the content of its root. -/
theorem ofDocument?_content
    {tree : Tree δ}
    (h : tree.content.isFinite = true) :
    Content.ofDocument? tree.document = some tree.content := by
  simp only [Content.ofDocument?, document_type, document_value, Category.ofName?_name]
  exact Content.ofPayload?_payloadDocument? h

/-- The document of a single content describes it. -/
theorem ofDocument?_leaf
    {content : Content}
    (slot : Option δ)
    (hcontent : content.category.isOperator = false)
    (hfinite : content.isFinite = true) :
    (ofDocument? (leaf content slot).document : Option (Tree δ)) =
      some (leaf content none) := by
  have hroot : Content.ofDocument? (leaf content slot).document = some content :=
    ofDocument?_content hfinite
  rw [ofDocument?_of_none (by simp [left?]) (by simp [right?]), hroot, Option.bind_some,
    create_leaf hcontent]
  rfl

/-- A tree that can be built is made again from its document, with empty slots. -/
theorem Shaped.ofDocument?_document
    {tree : Tree δ}
    (h : tree.Shaped)
    (hfinite : tree.isFinite = true) :
    (ofDocument? tree.document : Option (Tree δ)) = some tree.copy := by
  cases h with
  | single hcontent => exact ofDocument?_leaf _ hcontent hfinite
  | @rule name op value leftSlot rightSlot slot hvalue =>
      have hname : (Content.attr name).category.isOperator = false := rfl
      have hsingle := Category.isOperator_eq_false_of_isValue hvalue
      have hright : value.isFinite = true := ((Bool.and_eq_true _ _).mp hfinite).2
      have hroot :
          Content.ofDocument?
            (branch (.operator op) (leaf (.attr name) leftSlot) (leaf value rightSlot)
              slot).document = some (.operator op) :=
        ofDocument?_content rfl
      have hcreate :
          create (.operator op) (some (leaf (.attr name) none : Tree δ)) (some (leaf value none)) =
            .ok (Tree.ofParts name op value) :=
        create_rule op rfl hvalue
      rw [ofDocument?_of_some (document_left _) (document_right _), hroot, Option.bind_some,
        ofDocument?_leaf leftSlot hname rfl, Option.bind_some,
        ofDocument?_leaf rightSlot hsingle hright, Option.bind_some, hcreate]
      rfl

/-- Trees of the same shape with the same contents; numbers agree in every bit. -/
inductive Alike : Tree δ → Tree δ → Prop
  | leaf
      {content : Content} {slot slot' : Option δ} :
      Alike (.leaf content slot) (.leaf content slot')
  | branch
      {content : Content} {left left' right right' : Tree δ} {slot slot' : Option δ}
      (hleft : Alike left left')
      (hright : Alike right right') :
      Alike (.branch content left right slot) (.branch content left' right' slot')

/-- Trees are alike when they differ in the data in their slots at most. -/
theorem alike_iff_copy_eq
    {tree other : Tree δ} :
    Alike tree other ↔ tree.copy = other.copy := by
  constructor
  · intro h
    induction h with
    | leaf => rfl
    | branch hleft hright ihLeft ihRight => rw [copy, copy, ihLeft, ihRight]
  · intro h
    induction tree generalizing other with
    | leaf content slot =>
        cases other with
        | leaf content' slot' =>
            cases h
            exact .leaf
        | branch content' left right slot' => cases h
    | branch content left right slot ihLeft ihRight =>
        cases other with
        | leaf content' slot' => cases h
        | branch content' left' right' slot' =>
            simp only [copy, branch.injEq, and_true] at h
            obtain ⟨rfl, hleft, hright⟩ := h
            exact .branch (ihLeft hleft) (ihRight hright)

/-- A document does not show the data in the slots. -/
theorem Alike.document_eq
    {tree other : Tree δ}
    (h : Alike tree other) :
    tree.document = other.document := by
  induction h with
  | leaf => rfl
  | branch hleft hright ihLeft ihRight => rw [document, document, ihLeft, ihRight]

/-- Trees that can be built are alike when their documents are the same. -/
theorem alike_of_document_eq
    {tree other : Tree δ}
    (hshaped : tree.Shaped)
    (hother : other.Shaped)
    (hfinite : tree.isFinite = true)
    (hfiniteOther : other.isFinite = true)
    (h : tree.document = other.document) :
    Alike tree other := by
  have hcopy : some tree.copy = some other.copy := by
    rw [← hshaped.ofDocument?_document hfinite, h, hother.ofDocument?_document hfiniteOther]
  exact alike_iff_copy_eq.mpr (Option.some.inj hcopy)

/-- A layout writes trees that can be built alike when they are alike, and only then. -/
theorem write_eq_iff_alike
    {write : Json.Value → List Char} {tree other : Tree δ}
    (hwrite : Json.IsLayout write)
    (hshaped : tree.Shaped)
    (hother : other.Shaped)
    (hfinite : tree.isFinite = true)
    (hfiniteOther : other.isFinite = true) :
    String.ofList (write tree.document) = String.ofList (write other.document) ↔
      Alike tree other := by
  constructor
  · intro heq
    refine alike_of_document_eq hshaped hother hfinite hfiniteOther ?_
    exact hwrite.injective tree.document_isFinite other.document_isFinite
      (String.ofList_inj.mp heq)
  · intro h
    rw [h.document_eq]

/-- The texts of a tree in both layouts are documents of it and of nothing else. -/
theorem isDocument_json_iff
    (tree : Tree δ)
    (value : Json.Value) :
    (Json.IsDocument tree.json.toList value ↔ value = tree.document) ∧
      (Json.IsDocument tree.prettyJson.toList value ↔ value = tree.document) := by
  rw [json, prettyJson, String.toList_ofList, String.toList_ofList]
  exact ⟨Json.isLayout_compact.isDocument_iff tree.document_isFinite,
    Json.isLayout_pretty.isDocument_iff tree.document_isFinite⟩

/--
Nothing of a tree but the data in its slots is lost in Json. For trees that can
be built and whose numbers are finite, the texts in each of the two layouts are
the same exactly when the trees are alike, in every bit of their numbers. Both
texts are documents of the tree's document and of no other value, and a decoder
that looks at the name, the payload and the children alone makes the tree
again from it, with empty slots.
-/
theorem json_loses_nothing
    {tree other : Tree δ}
    (hbuilt : tree.Built)
    (hother : other.Built)
    (hfinite : tree.isFinite = true)
    (hfiniteOther : other.isFinite = true) :
    (tree.json = other.json ↔ Alike tree other) ∧
    (tree.prettyJson = other.prettyJson ↔ Alike tree other) ∧
    (∀ value,
      (Json.IsDocument tree.json.toList value ↔ value = tree.document) ∧
      (Json.IsDocument tree.prettyJson.toList value ↔ value = tree.document)) ∧
    (ofDocument? tree.document : Option (Tree δ)) = some tree.copy := by
  refine ⟨?_, ?_, tree.isDocument_json_iff, ?_⟩
  · exact write_eq_iff_alike Json.isLayout_compact hbuilt.shaped hother.shaped hfinite hfiniteOther
  · exact write_eq_iff_alike Json.isLayout_pretty hbuilt.shaped hother.shaped hfinite hfiniteOther
  · exact hbuilt.shaped.ofDocument?_document hfinite

/-- The sign of a zero and every character of a name are in both texts of a tree. -/
theorem json_loses_nothing_negative_zero :
    let name := "\"
é"
    let tree : Tree Unit := ofParts name .divide (.amount .own ⟨true, 0, by decide⟩)
    let other : Tree Unit := ofParts name .divide (.amount .own ⟨false, 0, by decide⟩)
    tree.Built ∧ other.Built ∧ tree.isFinite = true ∧ other.isFinite = true ∧
      tree.json ≠ other.json ∧ tree.prettyJson ≠ other.prettyJson ∧
      Json.IsDocument tree.prettyJson.toList tree.document ∧
      (ofDocument? tree.document : Option (Tree Unit)) = some tree := by
  intro name tree other
  have hbuilt : tree.Built := (Shaped.rule rfl).built
  have hother : other.Built := (Shaped.rule rfl).built
  have hfinite : tree.isFinite = true := by decide
  have hfiniteOther : other.isFinite = true := by decide
  have hdiffers : ¬Alike tree other := mt alike_iff_copy_eq.mp (by decide)
  obtain ⟨hjson, hpretty, hdocument, hrestored⟩ :=
    json_loses_nothing hbuilt hother hfinite hfiniteOther
  exact ⟨hbuilt, hother, hfinite, hfiniteOther, mt hjson.mp hdiffers, mt hpretty.mp hdiffers,
    (hdocument tree.document).2.mpr rfl, hrestored⟩

end Tree
end LayoutRules
