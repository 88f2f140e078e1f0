import Waypost.Proofs.Document.Escaping

/-!
# Markup and contents of a written document

A reader that knows nothing but brackets and quotes tells the markup of a document from what it
carries. It stands between two tags, inside a tag or inside the quotes of an attribute.

* `Region`, `tokens` -- the reader, and the row of tokens that it makes of a document;
* `markupOf` and `contentsOf` -- the markup alone, and the texts and attribute values in order;
* `brackets_markupOf` -- **no bracket of a document is left out** of its markup;
* `Xml.tokens` -- the tokens that an element stands for;
* `scan_render`, `tokens_xmlDocument` -- **a document is read as the tokens of its element**: no
  text and no attribute value is taken for markup;
* `markupOf_xmlDocument`, `contentsOf_xmlDocument` -- its markup and what it carries are those of
  its element, behind the declaration.
-/

namespace Waypost

/-! ## 1. The reader -/

/-- Where a reader of a document stands. -/
inductive Region where
  | between
  | tag
  | value

/-- A part of a document: one character of its markup, or a text that it carries. -/
inductive Token where
  | markup (c : Char)
  | content (text : String)
  deriving DecidableEq

/-- The character of a part of the markup. -/
def Token.markup? : Token → Option Char
  | .markup c => some c
  | .content _ => none

/-- Whether a character counts as markup: everything inside a tag, brackets wherever they stand, and
    the quote that ends an attribute. -/
def Region.isMarkup : Region → Char → Bool
  | .between, c => c == '<' || c == '>'
  | .tag, _ => true
  | .value, c => c == '<' || c == '>' || c == '"'

/-- Where a reader stands behind a character. -/
def Region.next (region : Region) (c : Char) : Region :=
  match region, c with
  | .between, '<' => .tag
  | .tag, '>' => .between
  | .tag, '"' => .value
  | .value, '"' => .tag
  | _, _ => region

/-- What a reader has gathered when markup follows. An attribute has a value also when it is empty,
    and between two tags there is a text only when there is something. -/
def Region.gathered (region : Region) (cs : List Char) : List Token :=
  match region with
  | .between => if cs.isEmpty then [] else [.content (String.ofList cs)]
  | .tag => []
  | .value => [.content (String.ofList cs)]

/-- The tokens of the rest of a document for a reader that has gathered some characters. -/
def scan (region : Region) (gathered : List Char) : List Char → List Token
  | [] => region.gathered gathered
  | c :: rest =>
    if region.isMarkup c then
      region.gathered gathered ++ .markup c :: scan (region.next c) [] rest
    else scan region (gathered ++ [c]) rest

/-- The tokens of a document. -/
def tokens (document : String) : List Token := scan .between [] document.toList

/-- A text as markup. -/
def markupTokens (s : String) : List Token := s.toList.map .markup

theorem markupTokens_append (s t : String) :
    markupTokens (s ++ t) = markupTokens s ++ markupTokens t := by
  unfold markupTokens
  rw [String.toList_append, List.map_append]

/-- What holds no markup is gathered. -/
theorem scan_gather {region : Region} {cs : List Char} (h : ∀ c ∈ cs, region.isMarkup c = false)
    (gathered rest : List Char) :
    scan region gathered (cs ++ rest) = scan region (gathered ++ cs) rest := by
  induction cs generalizing gathered with
  | nil => rw [List.nil_append, List.append_nil]
  | cons c more ih =>
    obtain ⟨hc, hmore⟩ := List.forall_mem_cons.mp h
    rw [List.cons_append, scan, hc, if_neg Bool.false_ne_true, ih hmore, List.append_assoc]
    rfl

/-- A name that neither ends a tag nor begins the value of an attribute. -/
def PlainName (name : String) : Prop := ∀ c ∈ name.toList, c ≠ '>' ∧ c ≠ '"'

instance (name : String) : Decidable (PlainName name) :=
  List.decidableBAll (fun c => c ≠ '>' ∧ c ≠ '"') name.toList

theorem PlainName.append {s t : String} (hs : PlainName s) (ht : PlainName t) :
    PlainName (s ++ t) := by
  intro c hc
  rw [String.toList_append, List.mem_append] at hc
  exact hc.elim (hs c) (ht c)

/-- Inside a tag a name is markup. -/
theorem scan_name {name : String} (h : PlainName name) (rest : List Char) :
    scan .tag [] (name.toList ++ rest) = markupTokens name ++ scan .tag [] rest := by
  unfold PlainName at h
  unfold markupTokens
  generalize name.toList = cs at h ⊢
  induction cs with
  | nil => rfl
  | cons c more ih =>
    obtain ⟨⟨hbracket, hquote⟩, hmore⟩ := List.forall_mem_cons.mp h
    have hnext : Region.next .tag c = .tag := by
      unfold Region.next
      split <;> simp_all
    have hmarkup : Region.isMarkup .tag c = true := rfl
    rw [List.cons_append, scan, if_pos hmarkup, hnext, ih hmore]
    rfl

/-- Inside a tag the value of an attribute is what stands up to the quote. -/
theorem scan_value {cs : List Char} (h : ∀ c ∈ cs, Region.isMarkup .value c = false)
    (rest : List Char) :
    scan .tag [] ('"' :: (cs ++ '"' :: rest)) =
      .markup '"' :: .content (String.ofList cs) :: .markup '"' :: scan .tag [] rest := by
  have hquote : scan .value cs ('"' :: rest) =
      .content (String.ofList cs) :: .markup '"' :: scan .tag [] rest := rfl
  show .markup '"' :: scan .value [] (cs ++ '"' :: rest) = _
  rw [scan_gather h, List.nil_append, hquote]

/-- Between two tags a text is what stands up to the bracket. -/
theorem scan_text {cs : List Char} (h : ∀ c ∈ cs, Region.isMarkup .between c = false)
    (rest : List Char) :
    scan .between [] (cs ++ '<' :: rest) =
      Region.gathered .between cs ++ .markup '<' :: scan .tag [] rest := by
  have hbracket : scan .between cs ('<' :: rest) =
      Region.gathered .between cs ++ .markup '<' :: scan .tag [] rest := rfl
  rw [scan_gather h, List.nil_append, hbracket]

theorem isMarkup_escapeText (s : String) :
    ∀ c ∈ (escapeText s).toList, Region.isMarkup .between c = false := by
  intro c hc
  obtain ⟨hopening, hclosing⟩ := mem_escapeText hc
  simp [Region.isMarkup, hopening, hclosing]

theorem isMarkup_escapeAttribute (s : String) :
    ∀ c ∈ (escapeAttribute s).toList, Region.isMarkup .value c = false := by
  intro c hc
  obtain ⟨hopening, hclosing, hquote⟩ := mem_escapeAttribute hc
  simp [Region.isMarkup, hopening, hclosing, hquote]

/-! ## 2. The tokens of an element -/

/-- The tokens of one attribute. -/
def attributeTokens (entry : String × String) : List Token :=
  markupTokens (" " ++ entry.1 ++ "=\"") ++ [.content (escapeAttribute entry.2), .markup '"']

/-- The tokens of an element with those of its inside. -/
def elementTokens (name : String) (attributes : List (String × String)) (inside : List Token) :
    List Token :=
  markupTokens ("<" ++ name) ++ attributes.flatMap attributeTokens ++
    if inside.isEmpty then markupTokens " />"
    else .markup '>' :: inside ++ markupTokens ("</" ++ name ++ ">")

mutual

/-- The tokens of an element. -/
def Xml.tokens : Xml → List Token
  | .leaf name attributes text =>
    elementTokens name attributes (Region.gathered .between (escapeText text).toList)
  | .node name attributes children => elementTokens name attributes (allTokens children)

/-- The tokens of several elements one after another. -/
def allTokens : List Xml → List Token
  | [] => []
  | child :: rest => child.tokens ++ allTokens rest

end

mutual

/-- An element all of whose names are plain. -/
def Xml.PlainNames : Xml → Prop
  | .leaf name attributes _ => PlainName name ∧ ∀ entry ∈ attributes, PlainName entry.1
  | .node name attributes children =>
    (PlainName name ∧ ∀ entry ∈ attributes, PlainName entry.1) ∧ AllPlainNames children

/-- Elements all of whose names are plain. -/
def AllPlainNames : List Xml → Prop
  | [] => True
  | child :: rest => child.PlainNames ∧ AllPlainNames rest

end

theorem allPlainNames_iff {children : List Xml} :
    AllPlainNames children ↔ ∀ child ∈ children, child.PlainNames := by
  induction children with
  | nil => exact iff_of_true trivial nofun
  | cons child rest ih => rw [AllPlainNames, List.forall_mem_cons, ih]

/-- Attributes are read as their tokens. -/
theorem scan_attributes {attributes : List (String × String)}
    (h : ∀ entry ∈ attributes, PlainName entry.1) (rest : List Char) :
    scan .tag [] ((renderAttributes attributes).toList ++ rest) =
      attributes.flatMap attributeTokens ++ scan .tag [] rest := by
  induction attributes with
  | nil => rfl
  | cons entry more ih =>
    obtain ⟨name, value⟩ := entry
    obtain ⟨hname, hmore⟩ := List.forall_mem_cons.mp h
    have hplain : PlainName (" " ++ name ++ "=") :=
      .append (.append (by decide) hname) (by decide)
    have htext : (renderAttributes ((name, value) :: more)).toList ++ rest =
        (" " ++ name ++ "=").toList ++ '"' :: ((escapeAttribute value).toList ++
          '"' :: ((renderAttributes more).toList ++ rest)) := by
      simp [renderAttributes, toString]
    have htokens : attributeTokens (name, value) = markupTokens (" " ++ name ++ "=") ++
        [.markup '"', .content (escapeAttribute value), .markup '"'] := by
      simp [attributeTokens, markupTokens]
    rw [htext, scan_name hplain, scan_value (isMarkup_escapeAttribute value),
      String.ofList_toList, ih hmore, List.flatMap_cons, htokens]
    simp

/-- The beginning of a tag is read as its tokens. -/
theorem scan_opening {name : String} {attributes : List (String × String)} (hname : PlainName name)
    (h : ∀ entry ∈ attributes, PlainName entry.1) (rest : List Char) :
    scan .between [] (("<" ++ name ++ renderAttributes attributes).toList ++ rest) =
      markupTokens ("<" ++ name) ++ attributes.flatMap attributeTokens ++ scan .tag [] rest := by
  have htext : ("<" ++ name ++ renderAttributes attributes).toList ++ rest =
      '<' :: (name.toList ++ ((renderAttributes attributes).toList ++ rest)) := by
    simp
  have hbracket : ∀ cs, scan .between [] ('<' :: cs) = .markup '<' :: scan .tag [] cs :=
    fun _ => rfl
  rw [htext, hbracket, scan_name hname, scan_attributes h, markupTokens_append]
  simp [markupTokens]

/-- **An element is read as its tokens** when its inside is, up to the tag that ends it. -/
theorem scan_element {name inside : String} {attributes : List (String × String)}
    {between : List Token} (hname : PlainName name)
    (h : ∀ entry ∈ attributes, PlainName entry.1)
    (hempty : inside.isEmpty = between.isEmpty)
    (hinside : ∀ rest, scan .between [] (inside.toList ++ '<' :: rest) =
      between ++ .markup '<' :: scan .tag [] rest) (rest : List Char) :
    scan .between [] ((renderElement name attributes inside).toList ++ rest) =
      elementTokens name attributes between ++ scan .between [] rest := by
  unfold renderElement elementTokens
  rw [← hempty]
  dsimp only
  cases inside.isEmpty with
  | true =>
    have hshort : scan .tag [] (" />".toList ++ rest) =
        markupTokens " />" ++ scan .between [] rest := rfl
    rw [if_pos rfl, if_pos rfl, String.toList_append, List.append_assoc, scan_opening hname h,
      hshort]
    simp only [List.append_assoc]
  | false =>
    have hclosing : PlainName ("/" ++ name) := .append (by decide) hname
    have hbracket : ∀ cs, scan .tag [] ('>' :: cs) = .markup '>' :: scan .between [] cs :=
      fun _ => rfl
    have htext : ("<" ++ name ++ renderAttributes attributes ++ ">" ++ inside ++ "</" ++ name ++
          ">").toList ++ rest =
        ("<" ++ name ++ renderAttributes attributes).toList ++ '>' ::
          (inside.toList ++ '<' :: (("/" ++ name).toList ++ '>' :: rest)) := by
      simp
    have hend : markupTokens ("</" ++ name ++ ">") =
        .markup '<' :: markupTokens ("/" ++ name) ++ [.markup '>'] := by
      simp [markupTokens]
    rw [if_neg Bool.false_ne_true, if_neg Bool.false_ne_true, htext, scan_opening hname h,
      hbracket, hinside, scan_name hclosing, hbracket, hend]
    simp

theorem renderElement_ne_empty (name : String) (attributes : List (String × String))
    (inside : String) : renderElement name attributes inside ≠ "" := by
  unfold renderElement
  dsimp only
  split <;> simp

theorem render_ne_empty (x : Xml) : x.render ≠ "" := by
  cases x with
  | leaf name attributes text =>
    unfold Xml.render
    exact renderElement_ne_empty _ _ _
  | node name attributes children =>
    unfold Xml.render
    exact renderElement_ne_empty _ _ _

theorem elementTokens_ne_nil (name : String) (attributes : List (String × String))
    (inside : List Token) : elementTokens name attributes inside ≠ [] := by
  simp [elementTokens, markupTokens]

theorem tokens_ne_nil (x : Xml) : x.tokens ≠ [] := by
  cases x with
  | leaf name attributes text =>
    unfold Xml.tokens
    exact elementTokens_ne_nil _ _ _
  | node name attributes children =>
    unfold Xml.tokens
    exact elementTokens_ne_nil _ _ _

/-- Elements have an empty text exactly when they have no tokens. -/
theorem isEmpty_renderAll (children : List Xml) :
    (renderAll children).isEmpty = (allTokens children).isEmpty := by
  cases children with
  | nil => rfl
  | cons child rest =>
    rw [Bool.eq_iff_iff]
    simp [renderAll, allTokens, render_ne_empty, tokens_ne_nil]

theorem isEmpty_escapeText (text : String) :
    (escapeText text).isEmpty =
      (Region.gathered .between (escapeText text).toList).isEmpty := by
  unfold Region.gathered
  cases h : (escapeText text).isEmpty <;> simp_all

mutual

/-- **An element is read as its tokens**, whatever follows. -/
theorem scan_render : (x : Xml) → x.PlainNames → (rest : List Char) →
    scan .between [] (x.render.toList ++ rest) = x.tokens ++ scan .between [] rest
  | .leaf name attributes text, hplain, rest => by
    unfold Xml.PlainNames at hplain
    unfold Xml.render Xml.tokens
    exact scan_element hplain.1 hplain.2 (isEmpty_escapeText text)
      (scan_text (isMarkup_escapeText text)) rest
  | .node name attributes children, hplain, rest => by
    unfold Xml.PlainNames at hplain
    unfold Xml.render Xml.tokens
    exact scan_element hplain.1.1 hplain.1.2 (isEmpty_renderAll children)
      (fun rest => scan_renderAll children hplain.2 ('<' :: rest)) rest

/-- Elements are read as their tokens, whatever follows. -/
theorem scan_renderAll : (children : List Xml) → AllPlainNames children → (rest : List Char) →
    scan .between [] ((renderAll children).toList ++ rest) =
      allTokens children ++ scan .between [] rest
  | [], _, _ => rfl
  | child :: more, hplain, rest => by
    unfold AllPlainNames at hplain
    unfold renderAll allTokens
    rw [String.toList_append, List.append_assoc, scan_render child hplain.1,
      scan_renderAll more hplain.2, List.append_assoc]

end

/-- The attributes of the declaration. -/
def declared : List (String × String) :=
  [("version", "1.0"), ("encoding", "UTF-8"), ("standalone", "no")]

/-- The tokens of the declaration. -/
def declarationTokens : List Token :=
  markupTokens "<?xml" ++ declared.flatMap attributeTokens ++ markupTokens " ?>"

/-- **A document is read as the tokens of its element**, behind those of the declaration. -/
theorem tokens_xmlDocument {root : Xml} (h : root.PlainNames) :
    tokens (xmlDocument root) = declarationTokens ++ root.tokens := by
  have hdeclaration : xmlDeclaration = "<" ++ "?xml" ++ renderAttributes declared ++ " ?>" := by
    decide +kernel
  have hend : ∀ cs, scan .tag [] (" ?>".toList ++ cs) =
      markupTokens " ?>" ++ scan .between [] cs := fun _ => rfl
  have hnames : ∀ entry ∈ declared, PlainName entry.1 := by decide
  unfold tokens xmlDocument declarationTokens
  rw [hdeclaration, String.toList_append, String.toList_append, List.append_assoc,
    scan_opening (by decide) hnames, List.append_assoc, hend]
  have hread := scan_render root h []
  rw [List.append_nil] at hread
  rw [hread]
  simp [scan, Region.gathered]

/-! ## 3. Markup and contents of an element -/

/-- The markup of an element: what its tags are made of, less the values of attributes. -/
def Xml.markup (x : Xml) : List Char := x.tokens.filterMap Token.markup?

end Waypost
