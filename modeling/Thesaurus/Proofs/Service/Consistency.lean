import Thesaurus.Proofs.Graph.NamedEdges
import Thesaurus.Proofs.Json.Sorted
import Thesaurus.Proofs.Service.Answers
import Thesaurus.Proofs.Service.Framework

/-!
# Answers that fit together

The same body is accepted by both endpoints that judge rules, or refused by both for the same
reason. The graph that is answered stands in the answer twice, edge by edge and rule by rule. Main
facts: `shows_graph` for the value that is answered, `same_body_same_judgement` for both endpoints.
-/

set_option autoImplicit false

namespace Thesaurus

open Text

/-- An edge as it is answered. -/
def NamedEdge.json (e : NamedEdge) : Json :=
  .object [("include_original", .bool e.keepsInput), ("input", .string e.input),
    ("output", .string e.output)]

namespace Service

open Rules

/-- A rule as it is answered. -/
def ruleJson (rule : NamedRule) : Json :=
  .object [("include_original", .bool rule.keepsInput),
    ("outputs", .array (rule.outputs.map .string))]

/-- A graph as it is answered. -/
def graphJson (edges : List NamedEdge) (rules : OrderedMap Text NamedRule) (lookahead : Int) :
    Json :=
  .object [("edges", .array (edges.map NamedEdge.json)),
    ("graph", .object [("max_horizontal_context", .ofInt lookahead),
      ("rules", .object (rules.mapValues ruleJson).entries)])]

/-- The response has a status, and its text is read as a value. -/
structure Shows (limits : Json.Limits) (response : Response) (status : Nat) (j : Json) : Prop where
  status : response.status = status
  json : ∃ t, response.json = some t ∧ Json.readWithin limits t = .ok j

theorem sortMembers_edgeJson (e : Edge) : (edgeJson e).sortMembers = e.named.json := by
  rw [edgeJson, Json.sortMembers_object]
  simp [List.mergeSort, List.MergeSort.Internal.splitInTwo, Json.nameLe, Json.sortMembers,
    Edge.named, NamedEdge.json]

theorem sortMembers_ruleJson (rule : NamedRule) : rule.json.sortMembers = ruleJson rule := by
  rw [NamedRule.json, Json.sortMembers_pair, Json.sortMembers_array, List.map_map]
  rfl

theorem sortMembers_ofInt (n : Int) : (Json.ofInt n).sortMembers = Json.ofInt n := rfl

theorem sortMembers_catalog (c : Catalog) :
    c.json.sortMembers = .object [("max_horizontal_context", .ofInt c.lookahead),
      ("rules", .object (c.rules.byName.mapValues ruleJson).entries)] := by
  rw [Catalog.json, Json.sortMembers_pair, OrderedMap.sortMembers_mapValues]
  simp only [sortMembers_ruleJson, sortMembers_ofInt]
  rfl

theorem sortMembers_graphMembers (g : Graph) :
    (Json.object (graphMembers g)).sortMembers =
      graphJson (g.edges.map Edge.named) g.catalog.rules.byName g.lookahead := by
  rw [graphMembers, Json.sortMembers_pair, sortMembers_catalog, Json.sortMembers_array,
    List.map_map, graphJson, List.map_map]
  simp only [Function.comp_def, sortMembers_edgeJson]
  rfl

theorem fits_graphJson {limit : Nat} (edges : List NamedEdge) (rules : OrderedMap Text NamedRule)
    {lookahead : Int} (h : (ofNat lookahead.natAbs).length ≤ limit) :
    Json.Fits limit 5 (graphJson edges rules lookahead) := by
  have hedge (e : NamedEdge) : Json.Fits limit 3 e.json :=
    .object (by simp [Json.Fits.bool, Json.Fits.string])
  have hrule (rule : NamedRule) : Json.Fits limit 2 (ruleJson rule) := by
    refine .object (List.forall_mem_cons.mpr ⟨.bool _, List.forall_mem_singleton.mpr (.array ?_)⟩)
    exact List.forall_mem_map.mpr fun output _ => .string output
  refine .object (List.forall_mem_cons.mpr ⟨.array ?_, List.forall_mem_singleton.mpr
    (.object (List.forall_mem_cons.mpr ⟨Json.fits_ofInt h 3, List.forall_mem_singleton.mpr
      (.object ?_)⟩))⟩)
  · exact List.forall_mem_map.mpr fun e _ => hedge e
  · exact List.forall_mem_map.mpr fun entry _ => hrule entry.2

theorem exists_payload {web : Framework} {r : Request}
    (h : web.content r.contentType r.body ≠ .failure) : ∃ j, web.payload r = .ok j := by
  rw [Framework.payload]
  split
  · exact ⟨_, rfl⟩
  · exact ⟨_, rfl⟩
  · exact ⟨_, rfl⟩
  · next hfailure => exact absurd hfailure h

section Shows

variable {web : Framework} (hweb : web.Writes) {limits : Json.Limits} {status : Nat}
  {members : List (Text × Json)}

include hweb

theorem shows_answer {room : Nat} {j : Json} (hsorted : (Json.object members).sortMembers = j)
    (hfits : Json.Fits limits.digits room j) (hroom : room ≤ limits.depth) :
    Shows limits (web.answer status members) status j where
  status := rfl
  json := by
    subst hsorted
    exact ⟨_, rfl, hweb.read_text limits room _ hfits hroom⟩

theorem shows_graph {g : Graph} (hdigits : (ofNat g.lookahead.natAbs).length ≤ limits.digits)
    (hdepth : 5 ≤ limits.depth) : Shows limits (web.answer 200 (graphMembers g)) 200
      (graphJson (g.edges.map Edge.named) g.catalog.rules.byName g.lookahead) :=
  shows_answer hweb (sortMembers_graphMembers g) (fits_graphJson _ _ hdigits) hdepth

/-- Members that hold no members and stand in the order of their names are answered as they are. -/
theorem shows_flat (hdepth : 1 ≤ limits.depth)
    (hsorted : members.Pairwise fun a b => Json.nameLe a.1 b.1)
    (hflat : ∀ member ∈ members, member.2.sortMembers = member.2)
    (hfits : ∀ member ∈ members, Json.Fits limits.digits 0 member.2) :
    Shows limits (web.answer status members) status (.object members) := by
  have hobject : Json.Fits limits.digits 1 (.object members) := .object hfits
  refine shows_answer hweb ?_ hobject hdepth
  rw [Json.sortMembers_object, List.mergeSort_of_pairwise hsorted]
  congr 1
  refine (List.map_congr_left fun member hmember => ?_).trans (List.map_id members)
  rw [hflat member hmember, id]

variable (hdepth : 1 ≤ limits.depth)

include hdepth

theorem shows_error (reason : Text) :
    Shows limits (web.answer 400 [("error", .string reason)]) 400
      (.object [("error", .string reason)]) :=
  shows_flat hweb hdepth (List.pairwise_singleton _ _) (List.forall_mem_singleton.mpr rfl)
    (List.forall_mem_singleton.mpr (.string reason))

theorem shows_invalid (reason : Text) :
    Shows limits (web.answer 400 [("error", .string reason), ("valid", .bool false)]) 400
      (.object [("error", .string reason), ("valid", .bool false)]) := by
  refine shows_flat hweb hdepth (List.pairwise_pair.mpr rfl) ?_ ?_
  · exact List.forall_mem_cons.mpr ⟨rfl, List.forall_mem_singleton.mpr rfl⟩
  · exact List.forall_mem_cons.mpr ⟨.string reason, List.forall_mem_singleton.mpr (.bool false)⟩

theorem shows_valid :
    Shows limits (web.answer 200 [("valid", .bool true)]) 200 (.object [("valid", .bool true)]) :=
  shows_flat hweb hdepth (List.pairwise_singleton _ _) (List.forall_mem_singleton.mpr rfl)
    (List.forall_mem_singleton.mpr (.bool true))

end Shows

/-- The same body is accepted by both endpoints, or refused by both for the same reason, and the two
halves of an answered graph say the same. -/
theorem same_body_same_judgement {web : Framework} (hweb : web.Writes) {files : FileTree}
    {env : Environment} {configFile : Text} {settings : Settings} {target target' : Text}
    {contentType : Option Text} {body : Bytes}
    (hsettings : (Settings.load files env (.ofText configFile)).outcome.1 = .ok settings)
    (hparse : web.dispatch registrations "POST" target = .serve .parse)
    (hvalidate : web.dispatch registrations "POST" target' = .serve .validate)
    (hcontent : web.content contentType body ≠ .failure) :
    let post (target : Text) : Request := { method := "POST", target, contentType, body }
    let built := (web.respond files env configFile (post target)).1
    let checked := (web.respond files env configFile (post target')).1
    (∃ reason : Text, ∀ limits : Json.Limits, 1 ≤ limits.depth →
      Shows limits built 400 (.object [("error", .string reason)]) ∧
      Shows limits checked 400 (.object [("error", .string reason), ("valid", .bool false)])) ∨
    ∃ (edges : List NamedEdge) (rules : OrderedMap Text NamedRule) (lookahead : Int),
      (∀ limits : Json.Limits, 1 ≤ limits.depth →
        Shows limits checked 200 (.object [("valid", .bool true)])) ∧
      (∀ limits : Json.Limits, (ofNat lookahead.natAbs).length ≤ limits.digits →
        5 ≤ limits.depth → Shows limits built 200 (graphJson edges rules lookahead)) ∧
      Describes edges rules := by
  intro post built checked
  obtain ⟨j, hj⟩ := exists_payload (r := post target) hcontent
  -- What is read of a body does not depend on the endpoint it is sent to.
  have hj' : web.payload (post target') = .ok j := hj
  by_cases hrules : ∃ t, j.member? "rules" = some (.string t)
  · obtain ⟨t, ht⟩ := hrules
    have hbuilt : built = _ := respond_graph hj ht hsettings hparse
    have hchecked : checked = _ := respond_take hj' ht hsettings hvalidate
    -- Both endpoints come to the verdict on the rules, and what is built is not refused afterwards.
    have hruns := run_eq (neverEmpty_payload j settings) (.text t)
    cases hverdict : verdict (parser j settings).normalizer (.text t) with
    | ok pairs =>
      obtain ⟨g, hrun⟩ : ∃ g, (parser j settings).run (.text t) = .ok g := by
        rw [hruns, hverdict]
        exact ⟨_, rfl⟩
      rw [hrun] at hbuilt
      rw [hverdict] at hchecked
      right
      refine ⟨g.edges.map Edge.named, g.catalog.rules.byName, g.lookahead, ?_, ?_,
        (describes_of_run rfl hrun).of_perm (OrderedMap.byName_perm _)⟩
      · exact fun limits hdepth => hchecked ▸ shows_valid hweb hdepth
      · exact fun limits hdigits hdepth => hbuilt ▸ shows_graph hweb hdigits hdepth
    | error cause =>
      rw [hruns, hverdict, Except.map] at hbuilt
      rw [hverdict] at hchecked
      left
      exact ⟨cause.message, fun limits hdepth =>
        ⟨hbuilt ▸ shows_error hweb hdepth _, hchecked ▸ shows_invalid hweb hdepth _⟩⟩
  · have hnone (t : Text) : j.member? "rules" ≠ some (.string t) := fun ht => hrules ⟨t, ht⟩
    have hbuilt : built = _ := respond_graph_notText hj hnone hparse
    have hchecked : checked = _ := respond_take_notText hj' hnone hvalidate
    left
    exact ⟨notText, fun limits hdepth =>
      ⟨hbuilt ▸ shows_error hweb hdepth notText, hchecked ▸ shows_invalid hweb hdepth notText⟩⟩

theorem same_body_same_judgement_shared_input :
    let files : FileTree := { workingDirectory := [], files := ∅ }
    let body : Text := "\x7b\"rules\": \"NY, new york\\nb, NY|c\\\\,, NY\", \"dedup\": false\x7d"
    let post (target : Text) : Request :=
      { method := "POST", target, contentType := some "application/json"
        body := [0xFF, 0xFE] ++ Utf16.encode .littleEndian body }
    ∃ (edges : List NamedEdge) (rules : OrderedMap Text NamedRule) (lookahead : Int),
      (∀ limits : Json.Limits, 1 ≤ limits.depth →
        Shows limits (respond files ∅ (post "/api/synonyms/validate")).1 200
          (.object [("valid", .bool true)])) ∧
      (∀ limits : Json.Limits, (ofNat lookahead.natAbs).length ≤ limits.digits →
        5 ≤ limits.depth → Shows limits (respond files ∅ (post "/api/synonyms/parse")).1 200
          (graphJson edges rules lookahead)) ∧
      Describes edges rules := by
  intro files body post
  have hsettings : (Settings.load files ∅).outcome.1 = .ok {} := by decide +kernel
  have hread : (Json.readBytes Framework.limits
      ([0xFF, 0xFE] ++ Utf16.encode .littleEndian body)).isOk = true := by decide +kernel
  have haccepted (j : Json) :
      ¬ Shows ⟨0, 1⟩ (respond files ∅ (post "/api/synonyms/parse")).1 400 j := by
    intro hrefused
    have hstatus : (respond files ∅ (post "/api/synonyms/parse")).1.status = 200 := by
      decide +kernel
    exact absurd (hrefused.status.symm.trans hstatus) (by decide)
  have hparse := route_of_mem_registrations ⟨root ++ "/parse", "POST", .parse⟩ (by decide)
  have hvalidate := route_of_mem_registrations ⟨root ++ "/validate", "POST", .validate⟩ (by decide)
  have hjudged := @same_body_same_judgement _ writes_standard files ∅ Settings.fileName {} _ _
    (some "application/json") ([0xFF, 0xFE] ++ Utf16.encode .littleEndian body) hsettings hparse
    hvalidate (content_standard_ne_failure fun hdeep => absurd (hdeep ▸ hread) nofun)
  exact hjudged.resolve_left fun ⟨_, hrefused⟩ => haccepted _ (hrefused ⟨0, 1⟩ (le_refl 1)).1

end Service

end Thesaurus
