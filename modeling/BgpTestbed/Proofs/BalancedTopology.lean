import Mathlib.Data.List.Infix
import BgpTestbed.Proofs.EmbeddedConfiguration

/-!
# Balanced braces in topologies

The emulator finds the end of a block by its closing brace.  If all braces in
the strings of a network are balanced, then so are those of its topology, and
every block of it ends where it seems to end.
-/

namespace BgpTestbed

open Emulator Text

namespace Text

/-- No closing brace stands before the opening brace that it belongs to, and
no brace is left open. -/
structure Balanced (text : String) : Prop where
  closesAll : text.toList.count '\x7d' = text.toList.count '\x7b'
  opensFirst : ∀ front, front <+: text.toList →
    front.count '\x7d' ≤ front.count '\x7b'

def isBrace (character : Char) : Bool :=
  character == '\x7b' || character == '\x7d'

/-- The braces of a text. -/
def braces (text : String) : List Char :=
  text.toList.filter isBrace

private theorem count_brace {brace : Char} (isBrace : isBrace brace = true)
    (characters : List Char) :
    (characters.filter Text.isBrace).count brace = characters.count brace :=
  List.count_filter isBrace

/-- Only braces count. -/
theorem balanced_iff_braces (text : String) :
    Balanced text ↔
      (braces text).count '\x7d' = (braces text).count '\x7b' ∧
        ∀ front, front <+: braces text →
          front.count '\x7d' ≤ front.count '\x7b' := by
  have counts : (braces text).count '\x7d' = text.toList.count '\x7d' ∧
      (braces text).count '\x7b' = text.toList.count '\x7b' :=
    ⟨count_brace rfl _, count_brace rfl _⟩
  rw [counts.1, counts.2]
  constructor
  · rintro ⟨closesAll, opensFirst⟩
    refine ⟨closesAll, fun front isFront => ?_⟩
    obtain ⟨whole, isWhole, rfl⟩ := List.prefix_filter_iff.mp isFront
    rw [count_brace rfl, count_brace rfl]
    exact opensFirst whole isWhole
  · rintro ⟨closesAll, opensFirst⟩
    refine ⟨closesAll, fun front isFront => ?_⟩
    rw [← count_brace rfl front, ← count_brace rfl front]
    exact opensFirst _ (isFront.filter isBrace)

instance (text : String) : Decidable (Balanced text) :=
  decidable_of_iff
    ((braces text).count '\x7d' = (braces text).count '\x7b' ∧
      ∀ front ∈ (braces text).inits,
        front.count '\x7d' ≤ front.count '\x7b')
    (by simp only [balanced_iff_braces, List.mem_inits])

theorem Balanced.of_braces {text other : String} (balanced : Balanced text)
    (same : braces other = braces text) : Balanced other := by
  rw [balanced_iff_braces, same]
  exact (balanced_iff_braces text).mp balanced

theorem balanced_empty : Balanced "" := by
  decide

theorem balanced_of_braces_eq_nil {text : String} (none : braces text = []) :
    Balanced text :=
  balanced_empty.of_braces none

/-- A front of two texts ends in the first or in the second one. -/
private theorem front_cases {front first second : List Char}
    (isFront : front <+: first ++ second) :
    front <+: first ∨ ∃ later, later <+: second ∧ front = first ++ later := by
  rcases List.prefix_or_prefix_of_prefix isFront (List.prefix_append _ _) with
    inFirst | ⟨later, rfl⟩
  · exact .inl inFirst
  · exact .inr ⟨later, (List.prefix_append_right_inj first).mp isFront, rfl⟩

theorem Balanced.append {first second : String}
    (isFirst : Balanced first) (isSecond : Balanced second) :
    Balanced (first ++ second) := by
  constructor
  · rw [String.toList_append, List.count_append, List.count_append,
      isFirst.closesAll, isSecond.closesAll]
  · intro front isFront
    rw [String.toList_append] at isFront
    rcases front_cases isFront with inFirst | ⟨later, inSecond, rfl⟩
    · exact isFirst.opensFirst front inFirst
    · have opened := isSecond.opensFirst later inSecond
      rw [List.count_append, List.count_append, isFirst.closesAll]
      omega

/-- A text in braces. -/
def braced (body : String) : String :=
  "\x7b" ++ body ++ "\x7d"

theorem Balanced.braced {body : String} (balanced : Balanced body) :
    Balanced (braced body) := by
  have characters : (Text.braced body).toList =
      '\x7b' :: (body.toList ++ ['\x7d']) := by
    simp [Text.braced]
  have closesAll := balanced.closesAll
  constructor
  · simp [characters, closesAll]
  · intro front isFront
    rw [characters] at isFront
    rcases List.prefix_cons_iff.mp isFront with rfl | ⟨inner, rfl, isInner⟩
    · simp
    · rcases List.prefix_concat_iff.mp isInner with rfl | inBody
      · simp [closesAll]
      · have opened := balanced.opensFirst inner inBody
        simp
        omega

theorem balanced_join {texts : List String}
    (balanced : ∀ text ∈ texts, Balanced text) :
    Balanced (String.join texts) := by
  induction texts with
  | nil => exact balanced_empty
  | cons text later ih =>
      obtain ⟨here, inLater⟩ := List.forall_mem_cons.mp balanced
      rw [String.join_cons]
      exact here.append (ih inLater)

/-- Plain text has no braces. -/
theorem braces_of_isPlain {text : String} (isPlain : IsPlain text) :
    braces text = [] := by
  rw [braces, List.filter_eq_nil_iff]
  intro character member
  obtain ⟨_, notOpening, notClosing⟩ := isPlain character member
  simp [isBrace, notOpening, notClosing]

theorem compositional_balanced : Compositional Balanced where
  plain isPlain := balanced_of_braces_eq_nil (braces_of_isPlain isPlain)
  append := Balanced.append

theorem balanced_ofLines {lines : List String}
    (balanced : ∀ line ∈ lines, Balanced line) : Balanced (ofLines lines) := by
  apply balanced_join
  rw [List.forall_mem_map]
  intro line member
  exact (balanced line member).append (by decide)

private theorem braces_lineChars (characters : List Char) :
    (lineChars characters).flatMap (List.filter isBrace) =
      characters.filter isBrace := by
  fun_induction lineChars characters with
  | case1 => rfl
  | case2 rest ih => simpa [isBrace] using ih
  | case3 rest ih => simpa [isBrace] using ih
  | case4 character rest _ _ noLines ih =>
      rw [noLines, List.flatMap_nil] at ih
      rw [List.flatMap_singleton, List.filter_cons, List.filter_cons, ← ih,
        List.filter_nil]
  | case5 character rest _ _ line later isLines ih =>
      rw [isLines, List.flatMap_cons] at ih
      rw [List.flatMap_cons, List.filter_cons, List.filter_cons, ← ih]
      split
      · rw [List.cons_append]
      · rfl

/-- Lines of their own keep the braces of a text in order, so that they are
balanced together even where a single one is not. -/
theorem braces_indented (text : String) :
    braces (ofLines ((lines text).map fun line => "\t" ++ line)) =
      braces text := by
  have indented (line : List Char) :
      braces ("\t" ++ String.ofList line ++ "\n") = line.filter isBrace := by
    simp [braces, isBrace]
  calc braces (ofLines ((lines text).map fun line => "\t" ++ line))
      = (lineChars text.toList).flatMap (List.filter isBrace) := by
        simp only [braces, ofLines, lines, List.map_map, String.toList_join,
          List.flatMap_map, List.filter_flatMap]
        exact List.flatMap_congr fun line _ => indented line
    _ = braces text := braces_lineChars text.toList

end Text

namespace Emulator

/-- A block of a topology: its braces are balanced, those behind its header
enclose all others, and once every brace is closed only newlines follow. -/
structure IsBlock (header text : String) : Prop where
  balanced : Balanced text
  isEnclosed : ∃ body newlines,
    text = header ++ " " ++ braced body ++ newlines ∧ Balanced body ∧
      ∀ character ∈ newlines.toList, character = '\n'
  closesLast : ∀ front rest, text.toList = front ++ rest →
    '\x7b' ∈ front → front.count '\x7d' = front.count '\x7b' →
      ∀ character ∈ rest, character = '\n'

/-- Nothing but the end of a balanced text in braces closes them all. -/
private theorem rest_of_closed {header body newlines : List Char}
    (noOpening : '\x7b' ∉ header) (noClosing : '\x7d' ∉ header)
    (opensFirst : ∀ front, front <+: body →
      front.count '\x7d' ≤ front.count '\x7b')
    {front rest : List Char}
    (splits : header ++ '\x7b' :: (body ++ '\x7d' :: newlines) = front ++ rest)
    (opens : '\x7b' ∈ front)
    (closed : front.count '\x7d' = front.count '\x7b') :
    rest <:+ newlines := by
  have isFront : front <+: header ++ '\x7b' :: (body ++ '\x7d' :: newlines) :=
    ⟨rest, splits.symm⟩
  rcases front_cases isFront with inHeader | ⟨behind, isBehind, rfl⟩
  · exact absurd (inHeader.subset opens) noOpening
  rw [List.count_append, List.count_append, List.count_eq_zero.mpr noOpening,
    List.count_eq_zero.mpr noClosing] at closed
  rw [List.append_assoc, List.append_cancel_left_eq] at splits
  rcases List.prefix_cons_iff.mp isBehind with rfl | ⟨inner, rfl, isInner⟩
  · rw [List.append_nil] at opens
    exact absurd opens noOpening
  -- Inside the body one brace more is open than the body itself opens.
  have stillOpen : ¬ inner <+: body := by
    intro inBody
    have bounded := opensFirst inner inBody
    simp at closed
    omega
  rcases front_cases isInner with inBody | ⟨last, isLast, rfl⟩
  · exact absurd inBody stillOpen
  rcases List.prefix_cons_iff.mp isLast with rfl | ⟨later, rfl, isLater⟩
  · rw [List.append_nil] at stillOpen
    exact absurd (List.prefix_refl body) stillOpen
  simp only [List.cons_append, List.append_assoc, List.cons.injEq, true_and,
    List.append_cancel_left_eq] at splits
  exact ⟨later, splits.symm⟩

theorem isBlock_of_enclosed {header body newlines text : String}
    (isText : text = header ++ " " ++ braced body ++ newlines)
    (isPlain : IsPlain header) (balanced : Balanced body)
    (areNewlines : ∀ character ∈ newlines.toList, character = '\n') :
    IsBlock header text := by
  have noBraces : braces newlines = [] := by
    rw [braces, List.filter_eq_nil_iff]
    intro character member
    rw [areNewlines character member]
    decide
  constructor
  · rw [isText]
    exact (((compositional_balanced.plain isPlain).append (by decide)).append
      balanced.braced).append (balanced_of_braces_eq_nil noBraces)
  · exact ⟨body, newlines, isText, balanced, areNewlines⟩
  · intro front rest splits opens closed character member
    have characters : text.toList =
        (header.toList ++ [' ']) ++
          '\x7b' :: (body.toList ++ '\x7d' :: newlines.toList) := by
      simp [isText, braced]
    have isRest : rest <:+ newlines.toList := by
      apply rest_of_closed _ _ balanced.opensFirst _ opens closed
      · exact header.toList ++ [' ']
      · simp only [List.mem_append, List.mem_singleton, not_or]
        exact ⟨fun member => (isPlain _ member).2.1 rfl, by decide⟩
      · simp only [List.mem_append, List.mem_singleton, not_or]
        exact ⟨fun member => (isPlain _ member).2.2 rfl, by decide⟩
      · rw [← splits, characters]
    exact areNewlines character (isRest.subset member)

private theorem NodeInterface.balanced_text {interface : NodeInterface}
    (name : Balanced interface.name) (address : Balanced interface.address) :
    Balanced interface.text :=
  ((((show Balanced "\tinterface " by decide).append name).append
    (by decide)).append address).append (by decide)

private theorem balanced_nodeName (id : Nat) : Balanced (nodeName id) :=
  (compositional_balanced.plain (by decide)).append
    (compositional_balanced.number id)

private theorem InterfacePeer.balanced_text {peer : InterfacePeer}
    (interface : Balanced peer.interface) : Balanced peer.text := by
  have isText : peer.text = "    interface-peer " ++
      braced (peer.interface ++ " " ++ nodeName peer.node) ++ "\n" := by
    have opening : "    interface-peer \x7b" =
        "    interface-peer " ++ "\x7b" := by simp
    have closing : "\x7d\n" = "\x7d" ++ "\n" := by simp
    unfold InterfacePeer.text braced
    rw [opening, closing]
    simp only [String.append_assoc]
  rw [isText]
  exact ((show Balanced "    interface-peer " by decide).append
    ((interface.append (by decide)).append
      (balanced_nodeName peer.node)).braced).append (by decide)

private theorem CustomConfig.balanced_text {config : CustomConfig}
    (id : Balanced config.id) (command : Balanced config.command)
    (content : Balanced (ofLines config.embedded)) :
    Balanced config.text := by
  have isText : config.text = "    custom-config " ++
      braced ("\n\tcustom-config-id " ++ config.id ++ "\n\tcustom-command " ++
        config.command ++ "\n\tconfig " ++
        braced ("\n" ++ ofLines config.embedded ++ "\t") ++ "\n    ") ++
      "\n" := by
    have opening : "    custom-config \x7b\n\tcustom-config-id " =
        "    custom-config " ++ "\x7b" ++ "\n\tcustom-config-id " := by simp
    have content : "\n\tconfig \x7b\n" = "\n\tconfig " ++ "\x7b" ++ "\n" := by
      simp
    have closing : "\t\x7d\n    \x7d\n" =
        "\t" ++ "\x7d" ++ "\n    " ++ "\x7d" ++ "\n" := by simp
    unfold CustomConfig.text CustomConfig.embedded braced
    rw [opening, content, closing]
    simp only [String.append_assoc]
  have inner : Balanced (braced ("\n" ++ ofLines config.embedded ++ "\t")) :=
    (((show Balanced "\n" by decide).append content).append (by decide)).braced
  have settings : Balanced ("\n\tcustom-config-id " ++ config.id ++
      "\n\tcustom-command " ++ config.command ++ "\n\tconfig ") :=
    ((((show Balanced "\n\tcustom-config-id " by decide).append id).append
      (by decide)).append command).append (by decide)
  rw [isText]
  exact ((show Balanced "    custom-config " by decide).append
    ((settings.append inner).append (by decide)).braced).append (by decide)

/-- A file may spread balanced braces over several lines. -/
private theorem CustomConfig.balanced_file {path content : String}
    (isPlain : IsPlain path) (balanced : Balanced content) :
    Balanced (CustomConfig.file path content).text := by
  apply CustomConfig.balanced_text
  · exact compositional_balanced.append (by decide)
      (compositional_balanced.plain isPlain)
  · exact compositional_balanced.plain isPlain
  · exact balanced.of_braces (braces_indented content)

private theorem CustomConfig.balanced_routingService :
    Balanced CustomConfig.routingService.text := by
  apply CustomConfig.balanced_text
  · decide
  · decide
  · have balanced : ∀ line ∈ CustomConfig.routingService.lines,
        Balanced line := by
      decide +kernel
    apply balanced_ofLines
    rw [CustomConfig.embedded, List.forall_mem_map]
    exact fun line member =>
      compositional_balanced.append (by decide) (balanced line member)

private theorem Node.balanced_networkText {node : Node}
    (hostname : Balanced node.hostname)
    (interfaces : ∀ interface ∈ node.interfaces,
      Balanced interface.name ∧ Balanced interface.address) :
    Balanced node.networkText := by
  have isText : node.networkText = "    network-config " ++
      braced ("\n\thostname " ++ node.hostname ++ "\n\t!\n" ++
        String.join (node.interfaces.map NodeInterface.text) ++ "    ") ++
      "\n" := by
    have opening : "    network-config \x7b\n\thostname " =
        "    network-config " ++ "\x7b" ++ "\n\thostname " := by simp
    have closing : "    \x7d\n" = "    " ++ "\x7d" ++ "\n" := by simp
    unfold Node.networkText braced
    rw [opening, closing]
    simp only [String.append_assoc]
  have interfaceTexts :
      Balanced (String.join (node.interfaces.map NodeInterface.text)) := by
    apply balanced_join
    rw [List.forall_mem_map]
    intro interface member
    obtain ⟨name, address⟩ := interfaces interface member
    exact NodeInterface.balanced_text name address
  have settings : Balanced ("\n\thostname " ++ node.hostname ++ "\n\t!\n") :=
    ((show Balanced "\n\thostname " by decide).append hostname).append
      (by decide)
  rw [isText]
  exact ((show Balanced "    network-config " by decide).append
    ((settings.append interfaceTexts).append (by decide)).braced).append
      (by decide)

/-- The texts inside a node are balanced. -/
structure Node.HasBalancedParts (node : Node) : Prop where
  hostname : Balanced node.hostname
  interfaces : ∀ interface ∈ node.interfaces,
    Balanced interface.name ∧ Balanced interface.address
  peers : ∀ peer ∈ node.peers, Balanced peer.interface
  services : ∀ services ∈ node.services.toList, Balanced services
  customConfigs : ∀ config ∈ node.customConfigs, Balanced config.text

theorem Node.isBlock_text {node : Node} (parts : node.HasBalancedParts) :
    IsBlock ("node n" ++ toString node.id) node.text := by
  have isText : node.text = "node n" ++ toString node.id ++ " " ++
      braced ("\n    type router\n    model " ++ node.model.text ++ "\n" ++
        node.networkText ++ placementText ++
        String.join (node.peers.map InterfacePeer.text) ++
        String.join (node.services.toList.map fun services =>
          "    services " ++ services ++ "\n") ++
        String.join (node.customConfigs.map CustomConfig.text)) ++ "\n\n" := by
    have name : "node n" = "node " ++ "n" := by simp
    have opening : " \x7b\n    type router\n    model " =
        " " ++ "\x7b" ++ "\n    type router\n    model " := by simp
    have closing : "\x7d\n\n" = "\x7d" ++ "\n\n" := by simp
    unfold Node.text nodeName braced
    rw [name, opening, closing]
    simp only [String.append_assoc]
  have kind : Balanced ("\n    type router\n    model " ++ node.model.text ++
      "\n") := by
    cases node.model <;> decide
  have peers : Balanced (String.join (node.peers.map InterfacePeer.text)) := by
    apply balanced_join
    rw [List.forall_mem_map]
    exact fun peer member =>
      InterfacePeer.balanced_text (parts.peers peer member)
  have services : Balanced (String.join (node.services.toList.map
      fun services => "    services " ++ services ++ "\n")) := by
    apply balanced_join
    rw [List.forall_mem_map]
    intro services member
    exact ((show Balanced "    services " by decide).append
      (parts.services services member)).append (by decide)
  have configs :
      Balanced (String.join (node.customConfigs.map CustomConfig.text)) := by
    apply balanced_join
    rw [List.forall_mem_map]
    exact parts.customConfigs
  have placement : Balanced placementText := by
    decide +kernel
  apply isBlock_of_enclosed isText
  · exact isPlain_append (by decide) (isPlain_number node.id)
  · exact ((((kind.append (Node.balanced_networkText parts.hostname
      parts.interfaces)).append placement).append peers).append
        services).append configs
  · simp

theorem Link.isBlock_text (link : Link) :
    IsBlock ("link l" ++ toString link.id) link.text := by
  have isText : link.text = "link l" ++ toString link.id ++ " " ++
      braced ("\n    nodes " ++
        braced (nodeName link.first ++ " " ++ nodeName link.second) ++
        "\n    bandwidth 0\n") ++ "\n\n" := by
    have opening : " \x7b\n    nodes \x7b" =
        " " ++ "\x7b" ++ "\n    nodes " ++ "\x7b" := by simp
    have closing : "\x7d\n    bandwidth 0\n\x7d\n\n" =
        "\x7d" ++ "\n    bandwidth 0\n" ++ "\x7d" ++ "\n\n" := by simp
    unfold Link.text braced
    rw [opening, closing]
    simp only [String.append_assoc]
  have ends : Balanced (nodeName link.first ++ " " ++ nodeName link.second) :=
    ((balanced_nodeName link.first).append (by decide)).append
      (balanced_nodeName link.second)
  apply isBlock_of_enclosed isText
  · exact isPlain_append (by decide) (isPlain_number link.id)
  · exact ((show Balanced "\n    nodes " by decide).append
      ends.braced).append (by decide)
  · simp

theorem isBlock_canvasText : IsBlock "canvas c1" canvasText := by
  have isText : canvasText = "canvas c1" ++ " " ++
      braced "\n    name \x7bCanvas1\x7d\n" ++ "\n\n" := by
    rfl
  apply isBlock_of_enclosed isText
  · decide
  · decide
  · simp

/-- The options between the braces of their block. -/
def globalOptionsText : String :=
  "\n" ++ ofLines (globalOptions.map fun (name, value) =>
    "    " ++ name ++ " " ++ value)

/-- The options are two blocks. -/
private theorem optionsText_blocks :
    ∃ global session, optionsText = global ++ session ∧
      IsBlock "option global" global ∧ IsBlock "option session" session := by
  have opening : "option global \x7b\n" =
      "option global" ++ " " ++ "\x7b" ++ "\n" := by simp
  have closing : "\x7d\n\noption session \x7b\n\x7d\n" =
      "\x7d" ++ "\n\n" ++ ("option session" ++ " " ++ braced "\n" ++ "\n") := by
    rfl
  have settings : ∀ setting ∈ globalOptions,
      Balanced setting.1 ∧ Balanced setting.2 := by
    decide
  have options : Balanced globalOptionsText := by
    apply Balanced.append (by decide)
    apply balanced_ofLines
    rw [List.forall_mem_map]
    intro setting member
    obtain ⟨name, value⟩ := settings setting member
    exact ((Balanced.append (by decide) name).append (by decide)).append value
  refine ⟨"option global" ++ " " ++ braced globalOptionsText ++ "\n\n",
    "option session" ++ " " ++ braced "\n" ++ "\n", ?_, ?_, ?_⟩
  · unfold optionsText globalOptionsText
    rw [opening, closing]
    simp only [braced, String.append_assoc]
  · exact isBlock_of_enclosed rfl (by decide) options (by simp)
  · exact isBlock_of_enclosed rfl (by decide) (by decide) (by simp)

end Emulator

/-- All strings of a network. -/
def Network.strings (network : Network) : List String :=
  network.entries.flatMap fun (key, router) => key :: router.strings

section Topology

variable {naming : Naming} {internal : List String}

theorem Router.balanced_configuration {router : Router}
    (balanced : ∀ text ∈ router.strings, Balanced text) :
    Balanced (router.configuration naming internal) := by
  rw [router.configuration_eq_ofLines]
  exact balanced_ofLines
    (router.forall_configuration_lines compositional_balanced internal balanced)

private theorem balanced_interfaceName (index : Nat) :
    Balanced (interfaceName index) :=
  (compositional_balanced.plain (by decide)).append
    (compositional_balanced.number index)

theorem routerNode_hasBalancedParts {key : String} {router : Router}
    (isKey : Balanced key) (balanced : ∀ text ∈ router.strings, Balanced text)
    (ids : List (String × Nat)) (hosts : List (String × Host)) (id : Nat) :
    (routerNode naming internal ids hosts id key router).HasBalancedParts := by
  constructor
  case hostname => exact isKey
  case interfaces =>
    intro interface member
    simp only [routerNode, routerInterfaces, List.mem_append, List.mem_map,
      Prod.exists] at member
    rcases member with ⟨session, index, inSessions, rfl⟩ | ⟨host, _, rfl⟩
    · have listed : session ∈ router.sessions :=
        List.mem_of_getElem? (List.mk_mem_zipIdx_iff_getElem?.mp inSessions)
      have name : Balanced router.name := balanced _ List.mem_cons_self
      have peer : Balanced session.peer := by
        apply balanced
        simp only [Router.strings, List.mem_cons, List.mem_append,
          List.mem_flatMap]
        exact .inr (.inr ⟨session, listed, List.mem_cons_self⟩)
      exact ⟨balanced_interfaceName index,
        (holds_naming_session compositional_balanced name peer).2⟩
    · exact ⟨balanced_interfaceName _, compositional_balanced.subnet _⟩
  case peers =>
    intro peer member
    simp only [routerNode, routerPeers, List.mem_append, List.mem_map,
      List.mem_filterMap, Option.map_eq_some_iff, Prod.exists] at member
    rcases member with ⟨_, index, _, _, _, rfl⟩ | ⟨_, _, rfl⟩
    · exact balanced_interfaceName index
    · exact balanced_interfaceName _
  case services =>
    intro services member
    simp only [routerNode, Option.toList_some, List.mem_singleton] at member
    rw [member]
    decide
  case customConfigs =>
    intro config member
    simp only [routerNode, List.mem_cons, List.not_mem_nil, or_false]
      at member
    rcases member with rfl | rfl
    · exact CustomConfig.balanced_routingService
    · exact CustomConfig.balanced_file (by decide)
        (Router.balanced_configuration balanced)

theorem hostNode_hasBalancedParts {key : String} (isKey : Balanced key)
    (router : Nat) (host : Host) :
    (hostNode key router host).HasBalancedParts := by
  constructor
  case hostname => exact isKey.append (by decide)
  case interfaces =>
    intro interface member
    rw [List.mem_singleton.mp member]
    exact ⟨balanced_interfaceName 0, compositional_balanced.subnet _⟩
  case peers =>
    intro peer member
    rw [List.mem_singleton.mp member]
    exact balanced_interfaceName 0
  case services => exact List.forall_mem_nil _
  case customConfigs => exact List.forall_mem_nil _

namespace Network

/-- The text of a topology is a sequence of blocks, none of which reaches into
the next one: a block for every node and every link, and three fixed ones. -/
theorem topology_balanced (network : Network) (naming : Naming)
    (internal : List String) (topology : Topology)
    (balanced : ∀ text ∈ network.strings, Balanced text)
    (describes : network.topology naming internal = .ok topology) :
    Balanced topology.text ∧
      ∃ nodeBlocks linkBlocks canvas global session,
        topology.text = String.join
          (nodeBlocks ++ linkBlocks ++ [canvas, global, session]) ∧
        List.Forall₂ (fun node => IsBlock ("node n" ++ toString node.id))
          topology.nodes nodeBlocks ∧
        List.Forall₂ (fun link => IsBlock ("link l" ++ toString link.id))
          topology.links linkBlocks ∧
        IsBlock "canvas c1" canvas ∧ IsBlock "option global" global ∧
        IsBlock "option session" session := by
  obtain ⟨hosts, hasHosts, rfl⟩ := topology_eq_ok describes
  have ofEntry : ∀ key router, network.find? key = some router →
      Balanced key ∧ ∀ text ∈ router.strings, Balanced text := by
    intro key router found
    have isEntry := (network.mem_entries_iff key router).mpr found
    exact List.forall_mem_cons.mp
      (List.forall_mem_flatMap.mp balanced (key, router) isEntry)
  have isNodeBlock :
      ∀ node ∈ (network.topologyWith naming internal hosts).nodes,
      IsBlock ("node n" ++ toString node.id) node.text := by
    intro node isNode
    apply Node.isBlock_text
    rcases hasHosts.mem_nodes_iff.mp isNode with
      ⟨key, router, found, rfl⟩ | ⟨key, host, isHost, rfl⟩
    · obtain ⟨isKey, ofRouter⟩ := ofEntry key router found
      exact routerNode_hasBalancedParts isKey ofRouter _ _ _
    · obtain ⟨router, found⟩ :=
        (network.mem_keys_iff key).mp (hasHosts.isKey isHost)
      exact hostNode_hasBalancedParts (ofEntry key router found).1 _ host
  obtain ⟨global, session, areOptions, isGlobal, isSession⟩ :=
    optionsText_blocks
  have isJoined : (network.topologyWith naming internal hosts).text =
      String.join ((network.topologyWith naming internal hosts).nodes.map
        Node.text ++
        (network.topologyWith naming internal hosts).links.map Link.text ++
        [canvasText, global, session]) := by
    rw [Topology.text, areOptions]
    simp only [String.join_append, String.join_cons, String.join_nil,
      String.append_empty, String.append_assoc]
  refine ⟨?_, _, _, canvasText, global, session, isJoined, ?_, ?_,
    isBlock_canvasText, isGlobal, isSession⟩
  · rw [isJoined]
    apply balanced_join
    simp only [List.forall_mem_append, List.forall_mem_map,
      List.forall_mem_cons]
    exact ⟨⟨fun node isNode => (isNodeBlock node isNode).balanced,
      fun link _ => link.isBlock_text.balanced⟩, isBlock_canvasText.balanced,
      isGlobal.balanced, isSession.balanced, List.forall_mem_nil _⟩
  · rw [List.forall₂_map_right_iff, List.forall₂_same]
    exact isNodeBlock
  · rw [List.forall₂_map_right_iff, List.forall₂_same]
    exact fun link _ => link.isBlock_text

/-- A router with a host and a session, with balanced braces in all kinds of
names; those of its route map stand on two lines. -/
def bracedRouter : Router :=
  { Router.fresh "\x7b\x7dA" 9 with
    networks := [.concrete ⟨⟨10, 1, 0, 0⟩, 19, by decide⟩,
      .symbolic "\x7bP\x7d"]
    routeMaps := [{ name := "first\x7b\nsecond\x7d", priority := 10
                    policy := "none", localPreference := some 200
                    deleteCommunity := none, setCommunities := [] }]
    sessions := [.unfiltered "B\x7b\x7b\x7d\x7d" ⟨10, 0, 0, 2⟩ ⟨10, 0, 0, 1⟩] }

def bracedNetwork : Network :=
  .ofList [("\x7bkey\x7d", bracedRouter),
    ("B\x7b\x7b\x7d\x7d", .fresh "B" 10)]

theorem topology_balanced_braced :
    (∀ text ∈ bracedNetwork.strings, Balanced text) ∧
    ∃ topology, bracedNetwork.topology .placeholder [] = .ok topology ∧
      Balanced topology.text ∧
      ∃ nodeBlocks linkBlocks canvas global session,
        topology.text = String.join
          (nodeBlocks ++ linkBlocks ++ [canvas, global, session]) ∧
        List.Forall₂ (fun node => IsBlock ("node n" ++ toString node.id))
          topology.nodes nodeBlocks ∧
        List.Forall₂ (fun link => IsBlock ("link l" ++ toString link.id))
          topology.links linkBlocks ∧
        IsBlock "canvas c1" canvas ∧ IsBlock "option global" global ∧
        IsBlock "option session" session := by
  have balanced : ∀ text ∈ bracedNetwork.strings, Balanced text := by
    decide +kernel
  have succeeds :
      (bracedNetwork.topology .placeholder []).toOption.isSome = true := by
    decide +kernel
  cases describes : bracedNetwork.topology .placeholder [] with
  | error error => simp [describes, Except.toOption] at succeeds
  | ok topology =>
      exact ⟨balanced, topology, rfl, topology_balanced bracedNetwork
        .placeholder [] topology balanced describes⟩

end Network

end Topology

end BgpTestbed
