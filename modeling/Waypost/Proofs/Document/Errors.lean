import Waypost.Document.Errors
import Waypost.Proofs.Fault.Steps

/-!
# What an error document lists

* `EntryOf`, `ElementOf` -- what stands for a fault in JSON and in XML;
* `Json.ListsFaults`, `xmlListsFaults` -- a document with one entry for each fault, in order;
* `errorsXml_eq_ok` -- an XML error document is that of the elements of its faults;
* `listsFaults_errorsJson`, `listsFaults_errorsXml` -- **an error document lists its faults**.
-/

namespace Waypost

/-! ## 1. JSON -/

/-- The last value under a key counts when members are put over others. -/
theorem Members.get?_update (members extra : Members) (key : String) :
    (members.update extra).get? key = (Members.get? extra.reverse key).or (members.get? key) := by
  unfold update
  induction extra generalizing members with
  | nil => rfl
  | cons member rest ih =>
    obtain ⟨k, v⟩ := member
    rw [List.foldl_cons, ih, List.reverse_cons]
    unfold get?
    rw [List.lookup_append, Option.or_assoc]
    by_cases hk : key = k
    · subst hk
      have hput : List.lookup key (Members.set key v members) = some v :=
        get?_set_self key v members
      rw [hput, List.lookup_cons_self, Option.some_or]
    · have hput : List.lookup key (Members.set k v members) = List.lookup key members :=
        get?_set_of_ne hk v members
      rw [hput, List.lookup_cons, beq_eq_false_iff_ne.mpr hk, List.lookup_nil, Option.none_or]

/-- An object that stands for a fault: it has the message and the class of the fault, over which
    stand its details. -/
def EntryOf (fault : Fault) (entry : Json) : Prop :=
  ∃ members, entry = .obj members ∧ ∀ key,
    Members.get? members key = (Members.get? fault.details.reverse key).or
      (Members.get? [("message", fault.message), ("details", .str fault.typeId.name)] key)

/-- A document with the message of the first fault and one entry for each fault, in order. -/
def Json.ListsFaults (document : Json) (faults : List Fault) : Prop :=
  ∃ message entries, document = .obj [("message", message), ("hints", .arr entries)] ∧
    faults.head?.map Fault.message = some message ∧ List.Forall₂ EntryOf faults entries

theorem entryOf_errorEntry (fault : Fault) : EntryOf fault (.obj (errorEntry fault)) :=
  ⟨errorEntry fault, rfl, Members.get?_update _ fault.details⟩

/-- **A JSON error document lists its faults.** -/
theorem listsFaults_errorsJson {faults : List Fault} {document : Json}
    (h : errorsJson faults = .ok document) : document.ListsFaults faults := by
  cases faults with
  | nil => cases h
  | cons first rest =>
    cases h
    refine ⟨first.message, _, rfl, rfl, ?_⟩
    rw [List.forall₂_map_right_iff, List.forall₂_same]
    exact fun fault _ => entryOf_errorEntry fault

/-! ## 2. XML -/

/-- An element that stands for a fault: its attributes are the message and the class. -/
def ElementOf (fault : Fault) (element : Xml) : Prop :=
  ∃ text, fault.message = .str text ∧
    element = .leaf "error" [("message", text), ("details", fault.typeId.name)] ""

/-- The text of an XML document with the message of the first fault and one element for each fault,
    in order. -/
def xmlListsFaults (document : String) (faults : List Fault) : Prop :=
  ∃ attributes text elements,
    document = xmlDocument (.node "gpx" attributes [.node "metadata" [] [.node "extensions" []
      [.leaf "message" [] text, .node "hints" [] elements]]]) ∧
    faults.head?.map Fault.message = some (.str text) ∧ List.Forall₂ ElementOf faults elements

theorem messageText_eq_ok {fault : Fault} {text : String} (h : messageText fault = .ok text) :
    fault.message = .str text := by
  unfold messageText at h
  split at h
  · rename_i found hmessage
    cases h
    exact hmessage
  · obtain ⟨_, -, h⟩ := bind_eq_ok.mp h
    cases h

theorem elementOf_errorElement {fault : Fault} {element : Xml}
    (h : errorElement fault = .ok element) : ElementOf fault element := by
  unfold errorElement at h
  obtain ⟨text, htext, h⟩ := bind_eq_ok.mp h
  cases h
  exact ⟨text, messageText_eq_ok htext, rfl⟩

/-- The tree of an XML error document. -/
def errorTree (creator version text : String) (elements : List Xml) : Xml :=
  .node "gpx" [("creator", creator), ("version", version)] [.node "metadata" [] [.node "extensions"
    [] [.leaf "message" [] text, .node "hints" [] elements]]]

/-- An XML error document is that of the elements of its faults. -/
theorem errorsXml_eq_ok {first : Fault} {rest : List Fault} {creator version document : String}
    (h : errorsXml (first :: rest) creator version = .ok document) :
    ∃ text elements, first.message = .str text ∧
      List.Forall₂ ElementOf (first :: rest) elements ∧
      document = xmlDocument (errorTree creator version text elements) := by
  unfold errorsXml at h
  obtain ⟨text, htext, h⟩ := bind_eq_ok.mp h
  obtain ⟨elements, helements, h⟩ := bind_eq_ok.mp h
  cases h
  exact ⟨text, elements, messageText_eq_ok htext,
    (forall₂_of_mapM helements).imp fun _ _ => elementOf_errorElement, rfl⟩

/-- **An XML error document lists its faults.** -/
theorem listsFaults_errorsXml {faults : List Fault} {creator version document : String}
    (h : errorsXml faults creator version = .ok document) : xmlListsFaults document faults := by
  cases faults with
  | nil => cases h
  | cons first rest =>
    obtain ⟨text, elements, htext, helements, rfl⟩ := errorsXml_eq_ok h
    exact ⟨_, text, elements, rfl, congrArg some htext, helements⟩

end Waypost
