import Nexolab.EdgeNodes
import Nexolab.SplitLists

/-!
# The topics of edge nodes

A node publishes each of its streams under one topic, which names the
organization, the node and the stream.  The builder strips the organization and
normalizes the node.  The parser strips the topic before it is split, and each of
the two identifiers afterwards, so it reads more texts than the builder writes.
-/

namespace Nexolab

inductive NodeTopicStream where
  | telemetry
  | health
  | events
  | status
  deriving DecidableEq

def NodeTopicStream.value : NodeTopicStream → String
  | .telemetry => "telemetry"
  | .health => "health"
  | .events => "events"
  | .status => "status"

def NodeTopicStream.ofValue (value : String) : Option NodeTopicStream :=
  [.telemetry, .health, .events, .status].find? fun stream =>
    stream.value = value

inductive NodeTopicFault where
  | domain (fault : NodeFault)
  /-- `NodeTopicAuthorizationError`. -/
  | notOwned (message : String)
  /-- The `ValueError` of an unknown stream. -/
  | unknownStream (value : String)
  deriving DecidableEq

structure ParsedNodeTopic where
  (organizationId nodeId : String)
  stream : NodeTopicStream

def segments (text : String) : List String :=
  (text.toList.splitOn '/').map String.ofList

def topicText (organization node : String) (stream : NodeTopicStream) : String :=
  "nexolab/v1/" ++ organization ++ "/" ++ node ++ "/" ++ stream.value

def topicDomain {α : Type} (result : Except NodeFault α) :
    Except NodeTopicFault α :=
  result.mapError .domain

def buildNodeTopic (organizationId nodeId stream : String) :
    Except NodeTopicFault String := do
  let organization ← topicDomain (requiredText organizationId "organization_id" 64)
  let normalizedNode ← topicDomain (normalizeNodeId nodeId)
  match NodeTopicStream.ofValue stream with
  | none => .error (.unknownStream stream)
  | some resolvedStream =>
    return topicText organization normalizedNode resolvedStream

def HasWildcard (text : String) : Prop := '+' ∈ text.toList ∨ '#' ∈ text.toList

instance (text : String) : Decidable (HasWildcard text) :=
  inferInstanceAs (Decidable (_ ∨ _))

def parseNodeTopic (topic : String) : Except NodeTopicFault ParsedNodeTopic := do
  let normalized ← topicDomain (requiredText topic "topic" 256)
  if HasWildcard normalized then
    .error (.notOwned "wildcards are not allowed in published node topics")
  else match segments normalized with
  | [root, version, organization, node, stream] =>
    if root ≠ "nexolab" ∨ version ≠ "v1" then
      .error (.notOwned "node topic must match nexolab/v1/{organization}/{node}/{stream}")
    else
      let organizationId ← topicDomain (requiredText organization "organization_id" 64)
      let nodeId ← topicDomain (normalizeNodeId node)
      match NodeTopicStream.ofValue stream with
      | none => .error (.notOwned "unsupported node MQTT stream")
      | some stream => return ⟨organizationId, nodeId, stream⟩
  | _ => .error (.notOwned "node topic must match nexolab/v1/{organization}/{node}/{stream}")

def authorizeNodeTopic (organizationId nodeId topic : String) :
    Except NodeTopicFault NodeTopicStream := do
  let parsed ← parseNodeTopic topic
  let organization ← topicDomain (requiredText organizationId "organization_id" 64)
  if parsed.organizationId ≠ organization then
    .error (.notOwned "node may publish only to its own exact MQTT namespace")
  else
    let node ← topicDomain (normalizeNodeId nodeId)
    if parsed.nodeId ≠ node then
      .error (.notOwned "node may publish only to its own exact MQTT namespace")
    else return parsed.stream

theorem joined_segments (text : String) :
    ['/'].intercalate ((segments text).map String.toList) = text.toList := by
  have hmap : (segments text).map String.toList = text.toList.splitOn '/' := by
    unfold segments
    rw [List.map_map]
    conv_rhs => rw [← List.map_id (text.toList.splitOn '/')]
    apply List.map_congr_left
    intro part _
    exact String.toList_ofList
  rw [hmap, List.intercalate_splitOn]

variable {text : String} {organizationId nodeId topic : String}
  {organization node : String}

theorem segments_of_joined {parts : List String}
    (htext : text.toList = ['/'].intercalate (parts.map String.toList))
    (hparts : ∀ part ∈ parts, '/' ∉ part.toList) (hne : parts ≠ []) :
    segments text = parts := by
  have hnone : ∀ part ∈ parts.map String.toList, '/' ∉ part := by
    intro part hpart
    obtain ⟨source, hsrc, rfl⟩ := List.mem_map.mp hpart
    exact hparts source hsrc
  have hmap : parts.map String.toList ≠ [] := by
    intro hnil
    exact hne (List.map_eq_nil_iff.mp hnil)
  unfold segments
  rw [htext, List.splitOn_intercalate '/' hnone hmap, List.map_map]
  conv_rhs => rw [← List.map_id parts]
  apply List.map_congr_left
  intro part _
  exact String.ofList_toList

theorem slash_not_mem_segment {text part : String} (hpart : part ∈ segments text) :
    '/' ∉ part.toList := by
  obtain ⟨chars, hchars, rfl⟩ := List.mem_map.mp hpart
  rw [String.toList_ofList]
  exact not_mem_of_mem_splitOn hchars

/-! ## Normalized identifiers -/

theorem isNodeIdChar_lower {char : Char} (hchar : isNodeIdChar char = true ∨ char = '-') :
    lowerChar char = char ∧ isPythonSpace char.toNat = false ∧
      char ≠ '/' ∧ char ≠ '+' ∧ char ≠ '#' := by
  have hrange : (97 ≤ char.toNat ∧ char.toNat ≤ 122) ∨
      (48 ≤ char.toNat ∧ char.toNat ≤ 57) ∨ char.toNat = 45 := by
    rcases hchar with hid | hhyphen
    · simp only [isNodeIdChar, Bool.or_eq_true, Bool.and_eq_true,
        decide_eq_true_eq] at hid
      rcases hid with ⟨hlow, hhigh⟩ | ⟨hlow, hhigh⟩
      · exact .inl ⟨hlow, hhigh⟩
      · exact .inr (.inl ⟨hlow, hhigh⟩)
    · rw [hhyphen]
      exact .inr (.inr rfl)
  refine ⟨?_, ?_, ?_, ?_, ?_⟩
  · unfold lowerChar
    rw [if_neg (by omega)]
    unfold Char.toLower
    rw [dif_neg]
    intro hupper
    have hlow : 65 ≤ char.toNat := hupper.1
    have hhigh : char.toNat ≤ 90 := hupper.2
    omega
  · unfold isPythonSpace
    simp only [Bool.or_eq_false_iff, Bool.and_eq_false_iff, decide_eq_false_iff_not]
    omega
  · intro hsame
    rw [hsame] at hrange
    exact absurd hrange (by decide)
  · intro hsame
    rw [hsame] at hrange
    exact absurd hrange (by decide)
  · intro hsame
    rw [hsame] at hrange
    exact absurd hrange (by decide)

theorem matchesNodeId_normalized {node : String} (hnode : matchesNodeId node) :
    stripText node = node ∧ lowerText node = node := by
  obtain ⟨_, _, hchars, _, _⟩ := hnode
  constructor
  · unfold stripText
    rw [stripWith_eq_self, String.ofList_toList]
    intro char hchar
    exact (isNodeIdChar_lower (hchars char hchar)).2.1
  · unfold lowerText
    rw [List.map_congr_left (g := id), List.map_id, String.ofList_toList]
    intro char hchar
    exact (isNodeIdChar_lower (hchars char hchar)).1

theorem normalizeNodeId_eq_ok {value normalized : String} :
    normalizeNodeId value = .ok normalized ↔
      lowerText (stripText value) = normalized ∧ matchesNodeId normalized := by
  unfold normalizeNodeId
  dsimp only
  split
  next hmatches =>
    rw [Except.ok.injEq]
    constructor
    · intro hsame
      exact ⟨hsame, hsame ▸ hmatches⟩
    · exact fun hboth => hboth.1
  next hother =>
    constructor
    · intro hfailed
      cases hfailed
    · rintro ⟨hsame, hmatches⟩
      rw [hsame] at hother
      exact absurd hmatches hother

theorem requiredText_eq_ok {value field result : String} {maxLength : ℕ} :
    requiredText value field maxLength = .ok result ↔
      stripText value = result ∧ result ≠ "" ∧ result.length ≤ maxLength := by
  unfold requiredText
  dsimp only
  split
  next hempty =>
    rw [hempty]
    constructor
    · intro hfailed
      cases hfailed
    · rintro ⟨hsame, hne, _⟩
      exact absurd hsame.symm hne
  next hne =>
    split
    next hlong =>
      constructor
      · intro hfailed
        cases hfailed
      · rintro ⟨hsame, _, hbound⟩
        rw [hsame] at hlong
        exact absurd hbound (not_le.mpr hlong)
    next hshort =>
      rw [Except.ok.injEq]
      constructor
      · intro hsame
        rw [hsame] at hne hshort
        exact ⟨hsame, hne, not_lt.mp hshort⟩
      · exact fun hall => hall.1

theorem topicDomain_eq_ok {α : Type} {result : Except NodeFault α} {value : α} :
    topicDomain result = .ok value ↔ result = .ok value := by
  cases result with
  | error fault =>
    constructor
    · intro hfailed
      cases hfailed
    · intro hfailed
      cases hfailed
  | ok found =>
    change (Except.ok found : Except NodeTopicFault α) = .ok value ↔ _
    rw [Except.ok.injEq, Except.ok.injEq]

variable {stream : NodeTopicStream}

theorem ofValue_eq_some {value : String} :
    NodeTopicStream.ofValue value = some stream ↔ stream.value = value := by
  constructor
  · intro hfound
    unfold NodeTopicStream.ofValue at hfound
    have hsame := List.find?_some hfound
    exact of_decide_eq_true hsame
  · intro hvalue
    rw [← hvalue]
    cases stream <;> decide

theorem buildNodeTopic_eq_ok :
    buildNodeTopic organizationId nodeId stream.value = .ok topic ↔
      ∃ organization node, stripText organizationId = organization ∧
        organization ≠ "" ∧ organization.length ≤ 64 ∧
        lowerText (stripText nodeId) = node ∧ matchesNodeId node ∧
        topicText organization node stream = topic := by
  unfold buildNodeTopic
  simp only [bind_eq_ok, topicDomain_eq_ok, requiredText_eq_ok,
    normalizeNodeId_eq_ok, ofValue_eq_some.mpr rfl, pure_eq_ok]
  constructor
  · rintro ⟨organization, ⟨hstrip, hne, hlen⟩, node, ⟨hlower, hmatches⟩, htopic⟩
    exact ⟨organization, node, hstrip, hne, hlen, hlower, hmatches, htopic⟩
  · rintro ⟨organization, node, hstrip, hne, hlen, hlower, hmatches, htopic⟩
    exact ⟨organization, ⟨hstrip, hne, hlen⟩, node, ⟨hlower, hmatches⟩, htopic⟩

theorem parseNodeTopic_eq_ok {topic : String} {parsed : ParsedNodeTopic} :
    parseNodeTopic topic = .ok parsed ↔
      (stripText topic).length ≤ 256 ∧ ¬ HasWildcard (stripText topic) ∧
      ∃ organization node, segments (stripText topic) =
          ["nexolab", "v1", organization, node, parsed.stream.value] ∧
        stripText organization = parsed.organizationId ∧
        parsed.organizationId ≠ "" ∧ parsed.organizationId.length ≤ 64 ∧
        lowerText (stripText node) = parsed.nodeId ∧
        matchesNodeId parsed.nodeId := by
  unfold parseNodeTopic
  constructor
  · intro hparse
    simp only [bind_eq_ok, topicDomain_eq_ok, requiredText_eq_ok] at hparse
    obtain ⟨normalized, ⟨hstrip, _, hlen⟩, hrest⟩ := hparse
    rw [hstrip]
    split at hrest
    · cases hrest
    next hwildcard =>
      refine ⟨hlen, hwildcard, ?_⟩
      split at hrest
      next root version organization node stream hsegs =>
        split at hrest
        · cases hrest
        next hroot =>
          obtain ⟨hname, hver⟩ := not_or.mp hroot
          simp only [bind_eq_ok, topicDomain_eq_ok, requiredText_eq_ok,
            normalizeNodeId_eq_ok] at hrest
          obtain ⟨organizationId, ⟨horganization, hne, hshort⟩, nodeId,
            ⟨hnode, hmatches⟩, hstream⟩ := hrest
          split at hstream
          · cases hstream
          next resolved hresd =>
            cases hstream
            refine ⟨organization, node, ?_, horganization, hne, hshort, hnode, hmatches⟩
            rw [hsegs, not_not.mp hname, not_not.mp hver, ofValue_eq_some.mp hresd]
      · cases hrest
  · rintro ⟨hlen, hwildcard, organization, node, hsegs, horganization, hne, hshort, hnode, hmatches⟩
    have hrequired : requiredText topic "topic" 256 = .ok (stripText topic) := by
      rw [requiredText_eq_ok]
      refine ⟨rfl, ?_, hlen⟩
      intro hempty
      rw [hempty] at hsegs
      exact absurd (congrArg List.length hsegs) (Nat.ne_of_beq_eq_false rfl)
    have horg : requiredText organization "organization_id" 64 = .ok parsed.organizationId :=
      requiredText_eq_ok.mpr ⟨horganization, hne, hshort⟩
    have hid : normalizeNodeId node = .ok parsed.nodeId :=
      normalizeNodeId_eq_ok.mpr ⟨hnode, hmatches⟩
    rw [topicDomain_eq_ok.mpr hrequired, ok_bind, if_neg hwildcard, hsegs]
    dsimp only
    rw [if_neg (by decide), topicDomain_eq_ok.mpr horg, ok_bind,
      topicDomain_eq_ok.mpr hid, ok_bind, ofValue_eq_some.mpr rfl]
    rfl

theorem authorizeNodeTopic_eq_ok :
    authorizeNodeTopic organizationId nodeId topic = .ok stream ↔
      ∃ parsed, parseNodeTopic topic = .ok parsed ∧
        stripText organizationId = parsed.organizationId ∧
        lowerText (stripText nodeId) = parsed.nodeId ∧ parsed.stream = stream := by
  unfold authorizeNodeTopic
  constructor
  · intro hauthorize
    simp only [bind_eq_ok, topicDomain_eq_ok, requiredText_eq_ok] at hauthorize
    obtain ⟨parsed, hparse, organization, ⟨hstrip, _, _⟩, hrest⟩ := hauthorize
    split at hrest
    · cases hrest
    next hsame =>
      simp only [bind_eq_ok, topicDomain_eq_ok, normalizeNodeId_eq_ok] at hrest
      obtain ⟨node, ⟨hnode, _⟩, hlast⟩ := hrest
      split at hlast
      · cases hlast
      next hnodes =>
        rw [pure_eq_ok] at hlast
        exact ⟨parsed, hparse, hstrip.trans (not_not.mp hsame).symm,
          hnode.trans (not_not.mp hnodes).symm, hlast⟩
  · rintro ⟨parsed, hparse, horganization, hnode, hstream⟩
    obtain ⟨_, _, _, _, _, _, hne, hshort, _, hmatches⟩ :=
      parseNodeTopic_eq_ok.mp hparse
    have horg : requiredText organizationId "organization_id" 64 = .ok parsed.organizationId :=
      requiredText_eq_ok.mpr ⟨horganization, hne, hshort⟩
    have hid : normalizeNodeId nodeId = .ok parsed.nodeId :=
      normalizeNodeId_eq_ok.mpr ⟨hnode, hmatches⟩
    rw [hparse, ok_bind, topicDomain_eq_ok.mpr horg, ok_bind,
      if_neg (not_not.mpr rfl), topicDomain_eq_ok.mpr hid, ok_bind,
      if_neg (not_not.mpr rfl), hstream]
    rfl

theorem topicText_joined (organization node : String) (stream : NodeTopicStream) :
    (topicText organization node stream).toList = ['/'].intercalate
      (["nexolab", "v1", organization, node, stream.value].map String.toList) := by
  unfold topicText
  simp only [String.toList_append]
  simp [List.intercalate, List.intersperse]

theorem stripText_between (first last : Char)
    (middle : List Char) (htext : text.toList = first :: (middle ++ [last]))
    (hfirst : isPythonSpace first.toNat = false)
    (hlast : isPythonSpace last.toNat = false) : stripText text = text := by
  unfold stripText stripWith
  rw [htext, List.dropWhile_cons_of_neg (by simp [hfirst]), List.reverse_cons,
    List.reverse_append, List.reverse_singleton, List.singleton_append,
    List.cons_append, List.dropWhile_cons_of_neg (by simp [hlast]),
    List.reverse_cons, List.reverse_append, List.reverse_reverse,
    List.reverse_singleton, List.singleton_append, List.cons_append, ← htext,
    String.ofList_toList]

theorem stripText_topicText (organization node : String) (stream : NodeTopicStream) :
    stripText (topicText organization node stream) = topicText organization node stream := by
  obtain ⟨start, last, hvalue, hlast⟩ : ∃ start last,
      stream.value.toList = start ++ [last] ∧ isPythonSpace last.toNat = false := by
    cases stream with
    | telemetry => exact ⟨"telemetr".toList, 'y', rfl, by decide⟩
    | health => exact ⟨"healt".toList, 'h', rfl, by decide⟩
    | events => exact ⟨"event".toList, 's', rfl, by decide⟩
    | status => exact ⟨"statu".toList, 's', rfl, by decide⟩
  apply stripText_between 'n' last ("exolab/v1/".toList ++ organization.toList ++
    ['/'] ++ node.toList ++ ['/'] ++ start) _ (by decide) hlast
  unfold topicText
  simp [String.toList_append, hvalue]

theorem mem_of_mem_stripText {char : Char}
    (hmem : char ∈ (stripText text).toList) : char ∈ text.toList := by
  unfold stripText stripWith at hmem
  rw [String.toList_ofList, List.mem_reverse] at hmem
  have hkept := (List.dropWhile_suffix _).subset hmem
  rw [List.mem_reverse] at hkept
  exact (List.dropWhile_suffix _).subset hkept

theorem mem_stripText {char : Char} (hmem : char ∈ text.toList)
    (hkept : isPythonSpace char.toNat = false) :
    char ∈ (stripText text).toList := by
  unfold stripText
  rw [String.toList_ofList]
  exact mem_stripWith hmem hkept

theorem slash_not_mem_value (stream : NodeTopicStream) :
    '/' ∉ stream.value.toList := by
  cases stream <;> decide

theorem value_not_wildcard (stream : NodeTopicStream) :
    ¬ HasWildcard stream.value := by
  cases stream <;> decide

theorem value_length (stream : NodeTopicStream) : stream.value.length ≤ 9 := by
  cases stream <;> decide

theorem segments_topicText (stream : NodeTopicStream)
    (horganization : '/' ∉ organization.toList) (hnode : '/' ∉ node.toList) :
    segments (topicText organization node stream) =
      ["nexolab", "v1", organization, node, stream.value] := by
  apply segments_of_joined (topicText_joined organization node stream) _ (List.cons_ne_nil _ _)
  intro part hpart
  simp only [List.mem_cons, List.not_mem_nil, or_false] at hpart
  rcases hpart with rfl | rfl | rfl | rfl | rfl
  · decide
  · decide
  · exact horganization
  · exact hnode
  · exact slash_not_mem_value stream

theorem eq_topicText {text organization node : String}
    (hsegs : segments text = ["nexolab", "v1", organization, node, stream.value]) :
    text = topicText organization node stream := by
  rw [← String.toList_inj, topicText_joined, ← hsegs, joined_segments]

theorem hasWildcard_topicText :
    HasWildcard (topicText organization node stream) ↔
      HasWildcard organization ∨ HasWildcard node := by
  have hvalue := value_not_wildcard stream
  unfold HasWildcard at hvalue ⊢
  unfold topicText
  simp only [String.toList_append, List.mem_append, not_or] at hvalue ⊢
  have hroot : '+' ∉ "nexolab/v1/".toList ∧ '#' ∉ "nexolab/v1/".toList := by
    decide
  have hslash : '+' ∉ "/".toList ∧ '#' ∉ "/".toList := by decide
  tauto

theorem matchesNodeId_plain {node : String} (hnode : matchesNodeId node) :
    '/' ∉ node.toList ∧ ¬ HasWildcard node := by
  obtain ⟨_, _, hchars, _, _⟩ := hnode
  constructor
  · intro hslash
    exact (isNodeIdChar_lower (hchars _ hslash)).2.2.1 rfl
  · rintro (hplus | hhash)
    · exact (isNodeIdChar_lower (hchars _ hplus)).2.2.2.1 rfl
    · exact (isNodeIdChar_lower (hchars _ hhash)).2.2.2.2 rfl

theorem HasWildcard.stripped (hwildcard : HasWildcard text) :
    HasWildcard (stripText text) := by
  rcases hwildcard with hplus | hhash
  · exact .inl (mem_stripText hplus (by decide))
  · exact .inr (mem_stripText hhash (by decide))

theorem HasWildcard.lowered (hwildcard : HasWildcard text) :
    HasWildcard (lowerText text) := by
  unfold HasWildcard lowerText
  rw [String.toList_ofList, List.mem_map, List.mem_map]
  rcases hwildcard with hplus | hhash
  · exact .inl ⟨'+', hplus, by decide⟩
  · exact .inr ⟨'#', hhash, by decide⟩

/-! ## Exact topics -/

/-- Identifiers the builder writes as they are and the parser can read back. -/
structure PlainIdentity (organizationId nodeId : String) : Prop where
  organization_stripped : stripText organizationId = organizationId
  organization_slash : '/' ∉ organizationId.toList
  organization_wildcard : ¬ HasWildcard organizationId
  node_normalized : lowerText (stripText nodeId) = nodeId

/-- The text is the topic of the stream up to whitespace around the text, around
its organization and around its node, and up to the case of its node, and one of
these differs. -/
def Respelled (organizationId nodeId : String) (stream : NodeTopicStream) (topic : String) : Prop :=
  (stripText topic).length ≤ 256 ∧ ∃ organization node, segments (stripText topic) =
        ["nexolab", "v1", organization, node, stream.value] ∧
      stripText organization = organizationId ∧
      lowerText (stripText node) = nodeId ∧
      (stripText topic ≠ topic ∨ organization ≠ organizationId ∨ node ≠ nodeId)

theorem parseNodeTopic_spelling {topic organization node : String}
    {parsed : ParsedNodeTopic} (hlen : (stripText topic).length ≤ 256)
    (hsegs : segments (stripText topic) =
      ["nexolab", "v1", organization, node, parsed.stream.value])
    (horganization : stripText organization = parsed.organizationId)
    (hnode : lowerText (stripText node) = parsed.nodeId) (hne : parsed.organizationId ≠ "")
    (hshort : parsed.organizationId.length ≤ 64) (hwildcard : ¬ HasWildcard parsed.organizationId)
    (hmatches : matchesNodeId parsed.nodeId) :
    parseNodeTopic topic = .ok parsed := by
  apply parseNodeTopic_eq_ok.mpr
  refine ⟨hlen, ?_, organization, node, hsegs, horganization, hne, hshort, hnode, hmatches⟩
  rw [eq_topicText hsegs, hasWildcard_topicText]
  rintro (hfirst | hsecond)
  · apply hwildcard
    rw [← horganization]
    exact hfirst.stripped
  · apply (matchesNodeId_plain hmatches).2
    rw [← hnode]
    exact hsecond.stripped.lowered

theorem topicText_length (stream : NodeTopicStream)
    (horganization : organization.length ≤ 64) (hnode : matchesNodeId node) :
    (topicText organization node stream).length ≤ 256 := by
  have hvalue := value_length stream
  have hlong := hnode.2.1
  have hroot : "nexolab/v1/".length = 11 := by decide
  have hslash : "/".length = 1 := by decide
  unfold topicText
  simp only [String.length_append]
  omega

theorem parseNodeTopic_topicText {organizationId nodeId : String}
    (stream : NodeTopicStream) (hplain : PlainIdentity organizationId nodeId)
    (hne : organizationId ≠ "") (hshort : organizationId.length ≤ 64)
    (hmatches : matchesNodeId nodeId) :
    parseNodeTopic (topicText organizationId nodeId stream) =
      .ok ⟨organizationId, nodeId, stream⟩ := by
  have hstrip := stripText_topicText organizationId nodeId stream
  have hsegs := segments_topicText stream hplain.organization_slash (matchesNodeId_plain hmatches).1
  have hlen := topicText_length stream hshort hmatches
  rw [← hstrip] at hsegs hlen
  exact parseNodeTopic_spelling hlen hsegs hplain.organization_stripped
    hplain.node_normalized hne hshort hplain.organization_wildcard hmatches

theorem plainIdentity_of_parse
    (hparse : parseNodeTopic topic = .ok ⟨organizationId, nodeId, stream⟩) :
    PlainIdentity organizationId nodeId := by
  obtain ⟨_, hwildcard, organization, node, hsegs, horganization, _, _, _,
    hmatches⟩ := parseNodeTopic_eq_ok.mp hparse
  dsimp only at hsegs horganization
  rw [eq_topicText hsegs, hasWildcard_topicText, not_or] at hwildcard
  have hmem : organization ∈ segments (stripText topic) := by
    rw [hsegs]
    simp
  have hslash := slash_not_mem_segment hmem
  obtain ⟨hstripped, hlowered⟩ := matchesNodeId_normalized hmatches
  constructor
  case organization_stripped =>
    rw [← horganization]
    exact stripText_idem organization
  case organization_slash =>
    intro hmem
    rw [← horganization] at hmem
    exact hslash (mem_of_mem_stripText hmem)
  case organization_wildcard =>
    rw [← horganization]
    rintro (hplus | hhash)
    · exact hwildcard.1 (.inl (mem_of_mem_stripText hplus))
    · exact hwildcard.1 (.inr (mem_of_mem_stripText hhash))
  case node_normalized =>
    rw [hstripped]
    exact hlowered

/-- A node may publish to exactly the topic which is built for it, and that topic
is read back, if and only if its identifiers are written as they are and the text
is no other spelling of the topic. -/
theorem authorizeNodeTopic_exact {organizationId nodeId topic built : String}
    {stream : NodeTopicStream}
    (hbuild : buildNodeTopic organizationId nodeId stream.value = .ok built) :
    ((authorizeNodeTopic organizationId nodeId topic = .ok stream ↔ topic = built) ∧
        parseNodeTopic built = .ok ⟨organizationId, nodeId, stream⟩) ↔
      PlainIdentity organizationId nodeId ∧
        ¬ Respelled organizationId nodeId stream topic := by
  obtain ⟨organization, node, horganization, hne, hshort, hnode, hmatches,
    rfl⟩ := buildNodeTopic_eq_ok.mp hbuild
  constructor
  · rintro ⟨hexact, hparse⟩
    have hplain := plainIdentity_of_parse hparse
    rw [hplain.organization_stripped] at horganization
    rw [hplain.node_normalized] at hnode
    subst horganization hnode
    refine ⟨hplain, ?_⟩
    rintro ⟨hlen, organization, node, hsegs, horganization, hnode, hdiffers⟩
    have hspelling : parseNodeTopic topic = .ok ⟨organizationId, nodeId, stream⟩ :=
      parseNodeTopic_spelling hlen hsegs horganization hnode hne hshort
        hplain.organization_wildcard hmatches
    have hauthorized : authorizeNodeTopic organizationId nodeId topic = .ok stream :=
      authorizeNodeTopic_eq_ok.mpr ⟨_, hspelling, hplain.organization_stripped,
        hplain.node_normalized, rfl⟩
    have htopic := hexact.mp hauthorized
    have hstripped : stripText topic = topic := by
      rw [htopic]
      exact stripText_topicText organizationId nodeId stream
    rw [hstripped, htopic, segments_topicText stream hplain.organization_slash
      (matchesNodeId_plain hmatches).1] at hsegs
    simp only [List.cons.injEq] at hsegs
    rcases hdiffers with hfirst | hsecond | hthird
    · exact hfirst hstripped
    · exact hsecond hsegs.2.2.1.symm
    · exact hthird hsegs.2.2.2.1.symm
  · rintro ⟨hplain, hspelled⟩
    rw [hplain.organization_stripped] at horganization
    rw [hplain.node_normalized] at hnode
    subst horganization hnode
    have hread := parseNodeTopic_topicText stream hplain hne hshort hmatches
    refine ⟨?_, hread⟩
    constructor
    · intro hauthorize
      obtain ⟨parsed, hparse, hsameOrganization, hsameNode, hstream⟩ :=
        authorizeNodeTopic_eq_ok.mp hauthorize
      obtain ⟨hlen, _, organization, node, hsegs, hfirst, _, _, hsecond, _⟩ :=
        parseNodeTopic_eq_ok.mp hparse
      rw [hplain.organization_stripped] at hsameOrganization
      rw [hplain.node_normalized] at hsameNode
      rw [← hsameOrganization] at hfirst
      rw [← hsameNode] at hsecond
      rw [hstream] at hsegs
      by_contra hother
      apply hspelled
      refine ⟨hlen, organization, node, hsegs, hfirst, hsecond, ?_⟩
      by_contra hplainly
      simp only [not_or, not_not] at hplainly
      obtain ⟨hstripped, rfl, rfl⟩ := hplainly
      rw [hstripped] at hsegs
      exact hother (eq_topicText hsegs)
    · intro hsame
      rw [hsame]
      exact authorizeNodeTopic_eq_ok.mpr ⟨_, hread, hplain.organization_stripped,
        hplain.node_normalized, rfl⟩

theorem authorizeNodeTopic_exact_edge :
    ((authorizeNodeTopic "org-1" "edge-1" "nexolab/v1/org-1/edge-2/telemetry" =
            .ok .telemetry ↔
          "nexolab/v1/org-1/edge-2/telemetry" =
            "nexolab/v1/org-1/edge-1/telemetry") ∧
        parseNodeTopic "nexolab/v1/org-1/edge-1/telemetry" =
          .ok ⟨"org-1", "edge-1", .telemetry⟩) ↔
      PlainIdentity "org-1" "edge-1" ∧
        ¬ Respelled "org-1" "edge-1" .telemetry
          "nexolab/v1/org-1/edge-2/telemetry" :=
  authorizeNodeTopic_exact (by decide +kernel)

/-- The node may also publish under a topic with its identifier in capitals. -/
theorem authorizeNodeTopic_inexact :
    buildNodeTopic "org-1" "edge-1" "telemetry" =
        .ok "nexolab/v1/org-1/edge-1/telemetry" ∧
      authorizeNodeTopic "org-1" "edge-1" "nexolab/v1/org-1/EDGE-1/telemetry" =
        .ok .telemetry ∧
      "nexolab/v1/org-1/EDGE-1/telemetry" ≠ "nexolab/v1/org-1/edge-1/telemetry" := by
  decide +kernel

end Nexolab
