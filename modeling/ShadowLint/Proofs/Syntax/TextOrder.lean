import Mathlib.Data.List.Flatten
import ShadowLint.Proofs.Syntax.SourceOrder

/-!
# Traversals against the order of the text

In a text the tokens stand one behind the other.  A traversal takes the parts of a node in the order
of its fields, and that is the order of the text but for two constructs: the receiver of a method is
the last field of its function, and the name of an import comes behind the path.  So a traversal of
a program text gives the nodes by their positions exactly if there are no such parts in it; the main
statement is `traversal_ascends_iff`.
-/

namespace ShadowLint

/-- Where a token stands in the text. -/
structure TokenSpan where
  /-- The position of its first character. -/
  start : Int
  /-- The position behind it. -/
  stop : Int
deriving DecidableEq, Repr

/-- The other token does not begin before the token ends. -/
def TokenSpan.Precedes (token other : TokenSpan) : Prop :=
  token.stop ≤ other.start

instance (token other : TokenSpan) : Decidable (token.Precedes other) :=
  inferInstanceAs (Decidable (token.stop ≤ other.start))

namespace Kind

/-- The field that is declared last although its contents do not stand last in the text. -/
def lateField? : Kind → Option String
  | .importSpec => some "name"
  | .funcDecl => some "recv"
  | _ => none

/-- The late field of a kind, if it has one. -/
def lateFields (kind : Kind) : List Field :=
  kind.fields.filter fun field => kind.lateField? == some field.name

/-- The other fields of a kind in order. -/
def timelyFields (kind : Kind) : List Field :=
  kind.fields.filter fun field => kind.lateField? != some field.name

/-- The tokens that open a node of the kind. -/
def openingFields (kind : Kind) : List Field :=
  kind.timelyFields.takeWhile (·.type == .position)

/-- What follows the tokens that open a node of the kind. -/
def followingFields (kind : Kind) : List Field :=
  kind.timelyFields.dropWhile (·.type == .position)

/-- The fields of a kind in the order of the text: the contents of a late field stand behind the
tokens that open the node, and in front of all the rest. -/
def textFields (kind : Kind) : List Field :=
  kind.openingFields ++ (kind.lateFields ++ kind.followingFields)

example : funcDecl.textFields.map Field.name =
    ["func_pos", "recv", "name", "params", "results", "body"] := by
  decide

theorem fields_eq_append (kind : Kind) : kind.fields = kind.timelyFields ++ kind.lateFields := by
  cases kind <;> decide

theorem timelyFields_eq_append (kind : Kind) :
    kind.timelyFields = kind.openingFields ++ kind.followingFields :=
  List.takeWhile_append_dropWhile.symm

theorem mem_textFields_iff {kind : Kind} {field : Field} :
    field ∈ kind.textFields ↔ field ∈ kind.fields := by
  rw [textFields, fields_eq_append, timelyFields_eq_append]
  simp only [List.mem_append]
  tauto

/-- The opening tokens are tokens of the kind. -/
theorem type_of_mem_openingFields {kind : Kind} {field : Field}
    (mem : field ∈ kind.openingFields) : kind.fieldType? field.name = some .position := by
  have token : field.type = .position := by
    simpa using List.all_eq_true.mp List.all_takeWhile field mem
  have field_mem : field ∈ kind.fields := mem_textFields_iff.mp (List.mem_append_left _ mem)
  rw [Kind.fieldType?_eq_of_mem field_mem, token]

theorem mem_fields_of_mem_timelyFields {kind : Kind} {field : Field}
    (mem : field ∈ kind.timelyFields) : field ∈ kind.fields :=
  List.mem_of_mem_filter mem

/-- The first position is also that of the first field in the order of the text. -/
theorem aligns_textFields (kind : Kind) : kind.aligns kind.textFields kind.startAnchors := by
  cases kind <;> decide

theorem lateField?_eq_some_iff {kind : Kind} {name : String} :
    kind.lateField? = some name ↔
      (kind = .importSpec ∧ name = "name") ∨ (kind = .funcDecl ∧ name = "recv") := by
  cases kind <;> simp [lateField?, eq_comm]

end Kind

namespace Node

section Parts

/-- The parts of a node in some of its fields. -/
def partsIn (node : Node) (fields : List Field) : List Node :=
  fields.flatMap fun field => node.nodes field.name

/-- The receiver of a method, or the name of an import. -/
def lateParts (node : Node) : List Node :=
  node.partsIn node.kind.lateFields

/-- All other parts of a node in order. -/
def timelyParts (node : Node) : List Node :=
  node.partsIn node.kind.timelyFields

theorem partsIn_append (node : Node) (fields others : List Field) :
    node.partsIn (fields ++ others) = node.partsIn fields ++ node.partsIn others :=
  List.flatMap_append

variable {node : Node} (conforms : node.Conforms)
include conforms

/-- The late parts come last in a node. -/
theorem Conforms.children_eq_append : node.children = node.timelyParts ++ node.lateParts := by
  rw [children_eq conforms.names, node.kind.fields_eq_append]
  exact node.partsIn_append _ _

/-- The late parts come first in the text. -/
theorem Conforms.partsIn_textFields :
    node.partsIn node.kind.textFields = node.lateParts ++ node.timelyParts := by
  have opening_eq : node.partsIn node.kind.openingFields = [] := by
    refine List.flatMap_eq_nil_iff.mpr fun field mem => ?_
    exact conforms.nodes_eq_nil (Kind.type_of_mem_openingFields mem) (.inl rfl)
  rw [timelyParts, Kind.timelyFields_eq_append, Kind.textFields]
  simp only [partsIn_append, opening_eq, List.nil_append]
  rfl

/-- A field for one node that is not late gives a part that is not late. -/
theorem Conforms.exists_timelyPart {field : Field} {accepted : NodeClass}
    (mem : field ∈ node.kind.timelyFields) (type : field.type = .node accepted) :
    ∃ part ∈ node.timelyParts, node.nodes field.name = [part] := by
  have type_eq := Kind.fieldType?_eq_of_mem (Kind.mem_fields_of_mem_timelyFields mem)
  obtain ⟨part, nodes_eq, -⟩ := conforms.exists_nodes_eq (type ▸ type_eq)
  exact ⟨part, List.mem_flatMap.mpr ⟨field, mem, nodes_eq ▸ List.mem_singleton_self part⟩, nodes_eq⟩

end Parts

section Tokens

/-- The token that a node without parts is: a name or a literal by its text, or the stretch that
stands for something unreadable. -/
def leaf? (node : Node) : Option TokenSpan :=
  match node.kind with
  | .ident =>
      let start := node.position "name_pos"
      some ⟨start, start + (node.text "name").length⟩
  | .basicLit =>
      let start := node.position "value_pos"
      some ⟨start, start + (node.text "value").length⟩
  | .badExpr | .badStmt => some ⟨node.position "from_pos", node.position "to_pos"⟩
  | _ => none

/-- What a node consists of, in the order of the text. -/
def textConstituents (node : Node) : List Edge :=
  node.kind.textFields.flatMap node.constituentsIn

theorem mem_children_of_mem_textConstituents {node part : Node}
    (mem : .part part ∈ node.textConstituents) : part ∈ node.children := by
  obtain ⟨field, -, mem⟩ := List.mem_flatMap.mp mem
  exact mem_children_of_mem_constituentsIn mem

/-- The tokens of a tree in the order of the text.  A token that is known by its position alone has
at least one character. -/
def tokens (node : Node) : List TokenSpan :=
  match node.leaf? with
  | some token => [token]
  | none => node.textConstituents.attach.flatMap fun
      | ⟨.token position, _⟩ => [⟨position, position + 1⟩]
      | ⟨.part part, _⟩ => part.tokens
termination_by sizeOf node
decreasing_by exact sizeOf_lt_of_mem_children (mem_children_of_mem_textConstituents ‹_›)

end Tokens

end Node

/-- The tokens of a constituent of a node. -/
def Edge.tokens : Edge → List TokenSpan
  | .token position => [⟨position, position + 1⟩]
  | .part node => node.tokens

namespace Node

section Tokens

variable {node part : Node}

theorem tokens_of_leaf {token : TokenSpan} (leaf : node.leaf? = some token) :
    node.tokens = [token] := by
  rw [tokens, leaf]

theorem tokens_of_no_leaf (no_leaf : node.leaf? = none) :
    node.tokens = node.textConstituents.flatMap Edge.tokens := by
  have attach_eq : node.textConstituents.attach.flatMap (fun edge => edge.val.tokens) =
      node.textConstituents.flatMap Edge.tokens := by
    rw [← List.flatMap_map Subtype.val, List.attach_map_subtype_val]
  rw [tokens, no_leaf, ← attach_eq]
  refine List.flatMap_congr fun edge _ => ?_
  obtain ⟨edge, mem⟩ := edge
  cases edge <;> rfl

/-- A node that is a token begins where the token does. -/
theorem start?_of_leaf {token : TokenSpan} (leaf : node.leaf? = some token) :
    node.start? = some token.start := by
  rw [start?, edgePosition?_eq, Kind.anchors]
  unfold leaf? at leaf
  split at leaf
  case h_5 => cases leaf
  all_goals
    rename_i kind
    obtain rfl := Option.some.inj leaf
    simp [kind, Kind.startAnchors, edge?, Anchor.edge?, Edge.position?]

/-- A node that is a token has no parts. -/
theorem Conforms.children_of_leaf (conforms : node.Conforms) {token : TokenSpan}
    (leaf : node.leaf? = some token) : node.children = [] := by
  have no_parts : ∀ field ∈ node.kind.fields, field.type = .position ∨ field.type = .text := by
    unfold leaf? at leaf
    split at leaf
    case h_5 => cases leaf
    all_goals
      rename_i kind
      rw [kind]
      decide
  rw [children_eq conforms.names]
  refine List.flatMap_eq_nil_iff.mpr fun field mem => ?_
  exact conforms.nodes_eq_nil (Kind.fieldType?_eq_of_mem mem) (no_parts field mem)

/-- The tokens of the parts in a field are among those of the field. -/
theorem Conforms.sublist_tokens_constituentsIn (conforms : node.Conforms) {field : Field}
    (mem : field ∈ node.kind.fields) :
    ((node.nodes field.name).flatMap tokens).Sublist
      ((node.constituentsIn field).flatMap Edge.tokens) := by
  have type_eq := Kind.fieldType?_eq_of_mem mem
  rw [constituentsIn]
  split
  · rename_i type
    rw [conforms.nodes_eq_nil type_eq (.inl type)]
    exact List.nil_sublist _
  · rename_i type
    rw [conforms.nodes_eq_nil type_eq (.inr type)]
    exact List.nil_sublist _
  all_goals
    rw [List.flatMap_map]
    exact List.Sublist.refl _

/-- The tokens of the parts of a node, in the order of the text, are among its own. -/
theorem Conforms.sublist_tokens (conforms : node.Conforms) :
    ((node.lateParts ++ node.timelyParts).flatMap tokens).Sublist node.tokens := by
  cases leaf : node.leaf? with
  | some token =>
      have parts_eq : node.timelyParts ++ node.lateParts = [] :=
        conforms.children_eq_append ▸ conforms.children_of_leaf leaf
      obtain ⟨timely_eq, late_eq⟩ := List.append_eq_nil_iff.mp parts_eq
      rw [timely_eq, late_eq]
      exact List.nil_sublist _
  | none =>
      rw [tokens_of_no_leaf leaf, ← conforms.partsIn_textFields, partsIn, textConstituents,
        List.flatMap_assoc, List.flatMap_assoc]
      exact .flatMap_right _ fun field mem =>
        conforms.sublist_tokens_constituentsIn (Kind.mem_textFields_iff.mp mem)

theorem Conforms.sublist_tokens_of_mem_children (conforms : node.Conforms)
    (mem : part ∈ node.children) : part.tokens.Sublist node.tokens := by
  have text_mem : part ∈ node.lateParts ++ node.timelyParts := by
    rw [conforms.children_eq_append] at mem
    exact List.mem_append.mpr (List.mem_append.mp mem).symm
  exact (sublist_flatMap_of_mem tokens text_mem).trans conforms.sublist_tokens

/-- The tokens below a node of a tree are among those of the tree. -/
theorem IsGrammatical.sublist_tokens {root : Node} (grammatical : root.IsGrammatical)
    (mem : node ∈ root.preorder) : node.tokens.Sublist root.tokens := by
  induction root using Node.induction with
  | step root ih =>
      rcases mem_preorder_iff.mp mem with rfl | ⟨part, part_mem, mem⟩
      · exact List.Sublist.refl _
      · have below := ih part part_mem (grammatical.of_mem_children part_mem) mem
        exact below.trans (grammatical.conforms.sublist_tokens_of_mem_children part_mem)

/-- A node begins where the first one of its tokens does. -/
theorem exists_opening_token (grammatical : node.IsGrammatical)
    (filled : ∀ part ∈ node.preorder, ∀ list ∈ part.kind.filledLists, part.nodes list ≠ []) :
    ∃ token rest, node.tokens = token :: rest ∧ node.start? = some token.start := by
  induction node using Node.induction with
  | step node ih =>
      cases leaf : node.leaf? with
      | some token => exact ⟨token, [], tokens_of_leaf leaf, start?_of_leaf leaf⟩
      | none =>
          obtain ⟨opening, opening_eq, start_eq⟩ :=
            grammatical.conforms.exists_opening_of_aligns (filled node (self_mem_preorder node))
              (fun _ => Kind.mem_textFields_iff.mp) node.kind.aligns_textFields
          obtain ⟨others, constituents_eq⟩ := List.head?_eq_some_iff.mp opening_eq
          rw [tokens_of_no_leaf leaf, textConstituents, constituents_eq, List.flatMap_cons,
            start_eq]
          cases opening with
          | token position => exact ⟨⟨position, position + 1⟩, _, rfl, rfl⟩
          | part part =>
              have part_mem : part ∈ node.children :=
                mem_children_of_mem_textConstituents (List.mem_of_mem_head? opening_eq)
              obtain ⟨token, rest, tokens_eq, part_start_eq⟩ :=
                ih part part_mem (grammatical.of_mem_children part_mem) fun other mem =>
                  filled other (mem_preorder_iff.mpr (.inr ⟨part, part_mem, mem⟩))
              exact ⟨token, rest ++ _, by rw [Edge.tokens, tokens_eq]; rfl, part_start_eq⟩

end Tokens

/-- The tokens of the tree stand as in a program text. -/
structure IsProgramText (root : Node) : Prop where
  /-- Every token begins where the one before it ends, or later. -/
  follow : root.tokens.Pairwise TokenSpan.Precedes
  /-- No token ends before it begins. -/
  extent : ∀ token ∈ root.tokens, token.start ≤ token.stop
  /-- Every name has a character. -/
  named : ∀ node ∈ root.preorder, node.kind = .ident → node.text "name" ≠ ""
  /-- No list is empty that is never empty in a source. -/
  filled : ∀ node ∈ root.preorder, ∀ list ∈ node.kind.filledLists, node.nodes list ≠ []
  /-- A receiver stands in parentheses: the closing one is between it and the name of the method. -/
  enclosed : ∀ node ∈ root.preorder, ∀ token ∈ (node.nodes "recv").flatMap tokens,
    ∀ other ∈ (node.nodes "name").flatMap tokens, token.stop < other.start

instance (root : Node) : Decidable root.IsProgramText :=
  decidable_of_iff (root.tokens.Pairwise TokenSpan.Precedes ∧
      (∀ token ∈ root.tokens, token.start ≤ token.stop) ∧
      (∀ node ∈ root.preorder, node.kind = .ident → node.text "name" ≠ "") ∧
      (∀ node ∈ root.preorder, ∀ list ∈ node.kind.filledLists, node.nodes list ≠ []) ∧
      ∀ node ∈ root.preorder, ∀ token ∈ (node.nodes "recv").flatMap tokens,
        ∀ other ∈ (node.nodes "name").flatMap tokens, token.stop < other.start)
    ⟨fun ⟨follow, extent, named, filled, enclosed⟩ => ⟨follow, extent, named, filled, enclosed⟩,
      fun text => ⟨text.follow, text.extent, text.named, text.filled, text.enclosed⟩⟩

/-- The node does not begin behind the other one. -/
def Leads (node other : Node) : Prop :=
  ∀ start ∈ node.start?, ∀ otherStart ∈ other.start?, start ≤ otherStart

instance (node other : Node) : Decidable (node.Leads other) :=
  inferInstanceAs (Decidable (∀ start ∈ node.start?, ∀ _ ∈ other.start?, _))

theorem leads_iff_le {node other : Node} {start otherStart : Int}
    (start_eq : node.start? = some start) (otherStart_eq : other.start? = some otherStart) :
    node.Leads other ↔ start ≤ otherStart := by
  simp [Leads, start_eq, otherStart_eq]

/-- All nodes of the list have a first position, and the first positions do not descend. -/
structure Ascend (nodes : List Node) : Prop where
  /-- Every node begins somewhere. -/
  placed : ∀ node ∈ nodes, node.start?.isSome
  /-- No node begins behind a later one. -/
  ordered : nodes.Pairwise Leads

instance (nodes : List Node) : Decidable (Ascend nodes) :=
  decidable_of_iff ((∀ node ∈ nodes, node.start?.isSome) ∧ nodes.Pairwise Leads)
    ⟨fun ascend => ⟨ascend.1, ascend.2⟩, fun ascend => ⟨ascend.placed, ascend.ordered⟩⟩

theorem Ascend.sublist {nodes others : List Node} (ascend : Ascend others)
    (among : nodes.Sublist others) : Ascend nodes :=
  ⟨fun node mem => ascend.placed node (among.subset mem), ascend.ordered.sublist among⟩

/-- The node begins where one of the tokens does. -/
def StartsAmong (node : Node) (tokens : List TokenSpan) : Prop :=
  ∃ token ∈ tokens, node.start? = some token.start

theorem StartsAmong.mono {node : Node} {tokens others : List TokenSpan}
    (among : node.StartsAmong tokens) (subset : tokens ⊆ others) : node.StartsAmong others := by
  obtain ⟨token, mem, start_eq⟩ := among
  exact ⟨token, subset mem, start_eq⟩

/-- A node that begins among tokens begins before those that begin among later tokens. -/
theorem StartsAmong.leads {node other : Node} {tokens others : List TokenSpan}
    (among : node.StartsAmong tokens) (otherAmong : other.StartsAmong others)
    (extent : ∀ token ∈ tokens, token.start ≤ token.stop)
    (precede : ∀ token ∈ tokens, ∀ later ∈ others, token.Precedes later) : node.Leads other := by
  obtain ⟨token, mem, start_eq⟩ := among
  obtain ⟨later, later_mem, later_eq⟩ := otherAmong
  rw [leads_iff_le start_eq later_eq]
  exact Int.le_trans (extent token mem) (precede token mem later later_mem)

theorem StartsAmong.not_leads {node other : Node} {tokens others : List TokenSpan}
    (among : node.StartsAmong tokens) (otherAmong : other.StartsAmong others)
    (behind : ∀ token ∈ tokens, ∀ earlier ∈ others, earlier.start < token.start) :
    ¬node.Leads other := by
  obtain ⟨token, mem, start_eq⟩ := among
  obtain ⟨earlier, earlier_mem, earlier_eq⟩ := otherAmong
  rw [leads_iff_le start_eq earlier_eq]
  exact Int.not_le.mpr (behind token mem earlier earlier_mem)

namespace IsProgramText

/-- A name takes up room in the text. -/
theorem start_lt_stop {node : Node} (text : node.IsProgramText) (isName : node.kind = .ident) :
    ∀ token ∈ node.tokens, token.start < token.stop := by
  let start := node.position "name_pos"
  have leaf : node.leaf? = some ⟨start, start + (node.text "name").length⟩ := by
    rw [leaf?, isName]
  have named : node.text "name" ≠ "" := text.named node (self_mem_preorder node) isName
  have length_ne : (node.text "name").length ≠ 0 := by simpa using named
  rw [tokens_of_leaf leaf, List.forall_mem_singleton]
  show start < start + (node.text "name").length
  omega

variable {root node : Node} (text : root.IsProgramText) (grammatical : root.IsGrammatical)
include text grammatical

/-- A part of a program text is one. -/
theorem of_mem_preorder (mem : node ∈ root.preorder) : node.IsProgramText := by
  have among := grammatical.sublist_tokens mem
  have below := preorder_subset mem
  exact ⟨text.follow.sublist among, fun token mem => text.extent token (among.subset mem),
    fun part mem => text.named part (below mem), fun part mem => text.filled part (below mem),
    fun part mem => text.enclosed part (below mem)⟩

theorem of_mem_children (mem : node ∈ root.children) : node.IsProgramText :=
  text.of_mem_preorder grammatical (mem_preorder_of_mem_children (self_mem_preorder root) mem)

theorem startsAmong_self : root.StartsAmong root.tokens := by
  obtain ⟨token, rest, tokens_eq, start_eq⟩ := exists_opening_token grammatical text.filled
  exact ⟨token, tokens_eq ▸ List.mem_cons_self, start_eq⟩

/-- Every node of a program text begins where one of its tokens does. -/
theorem startsAmong (mem : node ∈ root.preorder) : node.StartsAmong root.tokens := by
  have among := (text.of_mem_preorder grammatical mem).startsAmong_self
    (grammatical.of_mem_preorder mem)
  exact among.mono (grammatical.sublist_tokens mem).subset

theorem startsAmong_of_mem_children (mem : node ∈ root.children) :
    node.StartsAmong node.tokens :=
  (text.of_mem_children grammatical mem).startsAmong_self (grammatical.of_mem_children mem)

/-- A program text begins with its root. -/
theorem root_leads (mem : node ∈ root.preorder) : root.Leads node := by
  obtain ⟨first, rest, tokens_eq, start_eq⟩ := exists_opening_token grammatical text.filled
  obtain ⟨token, token_mem, node_start_eq⟩ := text.startsAmong grammatical mem
  rw [leads_iff_le start_eq node_start_eq]
  rcases List.mem_cons.mp (tokens_eq ▸ token_mem) with rfl | later
  · exact Int.le_refl _
  · have precedes : first.Precedes token :=
      List.rel_of_pairwise_cons (tokens_eq ▸ text.follow) later
    have extent : first.start ≤ first.stop := text.extent first (tokens_eq ▸ List.mem_cons_self)
    exact Int.le_trans extent precedes

/-- The tokens of the parts follow each other as the parts do in the text, late parts in front. -/
theorem parts_precede : (root.lateParts ++ root.timelyParts).Pairwise fun part other =>
    ∀ token ∈ part.tokens, ∀ later ∈ other.tokens, token.Precedes later :=
  (List.pairwise_flatMap.mp (text.follow.sublist grammatical.conforms.sublist_tokens)).2

/-- Without late parts the parts follow each other as they do in the node. -/
theorem children_precede (timely : root.lateParts = []) : root.children.Pairwise fun part other =>
    ∀ token ∈ part.tokens, ∀ later ∈ other.tokens, token.Precedes later := by
  have precede := text.parts_precede grammatical
  rw [timely, List.nil_append] at precede
  rwa [grammatical.conforms.children_eq_append, timely, List.append_nil]

/-- What lies in a part begins before what lies in parts with later tokens. -/
theorem leads_of_precede {part other later : Node} (part_mem : part ∈ root.children)
    (other_mem : other ∈ root.children)
    (precede : ∀ token ∈ part.tokens, ∀ later ∈ other.tokens, token.Precedes later)
    (mem : node ∈ part.preorder) (later_mem : later ∈ other.preorder) : node.Leads later := by
  have part_text := text.of_mem_children grammatical part_mem
  have other_text := text.of_mem_children grammatical other_mem
  have among := part_text.startsAmong (grammatical.of_mem_children part_mem) mem
  have otherAmong := other_text.startsAmong (grammatical.of_mem_children other_mem) later_mem
  exact among.leads otherAmong part_text.extent precede

theorem isSome_start? (mem : node ∈ root.preorder) : node.start?.isSome := by
  obtain ⟨token, -, start_eq⟩ := text.startsAmong grammatical mem
  rw [start_eq]
  rfl

/-- A traversal of a program text without late parts goes forward. -/
theorem ascend_preorder (timely : ∀ node ∈ root.preorder, node.lateParts = []) :
    Ascend root.preorder := by
  refine ⟨fun node mem => text.isSome_start? grammatical mem, ?_⟩
  induction root using Node.induction with
  | step root ih =>
      have below {part other : Node} (part_mem : part ∈ root.children)
          (mem : other ∈ part.preorder) : other ∈ root.preorder :=
        mem_preorder_iff.mpr (.inr ⟨part, part_mem, mem⟩)
      rw [preorder_eq, List.pairwise_cons, List.pairwise_flatMap]
      refine ⟨fun node mem => ?_, fun part mem => ?_, ?_⟩
      · apply text.root_leads grammatical
        rw [preorder_eq]
        exact List.mem_cons_of_mem _ mem
      · exact ih part mem (text.of_mem_children grammatical mem) (grammatical.of_mem_children mem)
          fun node node_mem => timely node (below mem node_mem)
      · have precede := text.children_precede grammatical (timely root (self_mem_preorder root))
        exact precede.imp_of_mem fun mem other_mem precede node node_mem later later_mem =>
          text.leads_of_precede grammatical mem other_mem precede node_mem later_mem

/-- The parts of a program text without late parts go forward. -/
theorem ascend_children (timely : root.lateParts = []) : Ascend root.children := by
  constructor
  · intro part mem
    exact text.isSome_start? grammatical (mem_preorder_of_mem_children (self_mem_preorder root) mem)
  · refine (text.children_precede grammatical timely).imp_of_mem fun mem other_mem precede => ?_
    exact text.leads_of_precede grammatical mem other_mem precede (self_mem_preorder _)
      (self_mem_preorder _)

/-- Behind a late part stands a part that is not late. -/
theorem exists_timely_behind {late : Node} (mem : late ∈ root.lateParts) :
    ∃ timely ∈ root.timelyParts, ∀ token ∈ late.tokens, ∀ later ∈ timely.tokens,
      token.start < later.start := by
  have conforms := grammatical.conforms
  obtain ⟨field, field_mem, late_mem⟩ := List.mem_flatMap.mp mem
  have late_text := text.of_mem_children grammatical (mem_children_of_mem_nodes late_mem)
  have late_field : root.kind.lateField? = some field.name := by
    simpa using (List.mem_filter.mp field_mem).2
  rcases Kind.lateField?_eq_some_iff.mp late_field with ⟨kind, name⟩ | ⟨kind, name⟩
  · -- the name of an import takes up room in front of the path
    have path_field : Grammar.node "path" (.only .basicLit) ∈ root.kind.timelyFields := by
      rw [kind]
      decide
    have name_type : root.kind.fieldType? field.name = some (.optional (.only .ident)) := by
      rw [kind, name]
      decide
    have isName : late.kind = .ident := by
      simpa [NodeClass.accepts] using conforms.accepts_of_optional name_type late_mem
    obtain ⟨path, path_mem, -⟩ := conforms.exists_timelyPart path_field rfl
    have precede :=
      (List.pairwise_append.mp (text.parts_precede grammatical)).2.2 late mem path path_mem
    refine ⟨path, path_mem, fun token token_mem later later_mem => ?_⟩
    have lt : token.start < token.stop := late_text.start_lt_stop isName token token_mem
    exact Int.lt_of_lt_of_le lt (precede token token_mem later later_mem)
  · -- the receiver of a method and its parenthesis stand in front of the name
    have name_field : Grammar.node "name" (.only .ident) ∈ root.kind.timelyFields := by
      rw [kind]
      decide
    obtain ⟨function, function_mem, function_eq⟩ := conforms.exists_timelyPart name_field rfl
    refine ⟨function, function_mem, fun token token_mem later later_mem => ?_⟩
    have le : token.start ≤ token.stop := late_text.extent token token_mem
    have lt : token.stop < later.start := by
      apply text.enclosed root (self_mem_preorder root)
      · exact List.mem_flatMap.mpr ⟨late, name ▸ late_mem, token_mem⟩
      · exact List.mem_flatMap.mpr ⟨function, function_eq ▸ List.mem_singleton_self _, later_mem⟩
    exact Int.lt_of_le_of_lt le lt

/-- The parts of a program text go forward exactly if none is late. -/
theorem ascend_children_iff : Ascend root.children ↔ root.lateParts = [] := by
  constructor
  · intro ascend
    refine List.eq_nil_iff_forall_not_mem.mpr fun late late_mem => ?_
    obtain ⟨timely, timely_mem, behind⟩ := text.exists_timely_behind grammatical late_mem
    have children_eq := grammatical.conforms.children_eq_append
    have ordered := ascend.ordered
    rw [children_eq, List.pairwise_append] at ordered
    have among {part : Node} (mem : part ∈ root.timelyParts ++ root.lateParts) :
        part.StartsAmong part.tokens :=
      text.startsAmong_of_mem_children grammatical (children_eq ▸ mem)
    have not_leads : ¬timely.Leads late :=
      (among (List.mem_append_left _ timely_mem)).not_leads
        (among (List.mem_append_right _ late_mem))
        fun later later_mem token token_mem => behind token token_mem later later_mem
    exact not_leads (ordered.2.2 timely timely_mem late late_mem)
  · exact text.ascend_children grammatical

end IsProgramText

/-- In a program text the parts of a node come in the order of their positions exactly if the node
is no method with a receiver and no import with a name, and a traversal gives the nodes of a tree
in this order exactly if no node of the tree is one of the two. -/
theorem traversal_ascends_iff {root : Node} (grammatical : root.IsGrammatical)
    (text : root.IsProgramText) :
    (∀ node ∈ root.preorder, Ascend node.children ↔ node.lateParts = []) ∧
      (Ascend root.walk ↔ ∀ node ∈ root.preorder, node.lateParts = []) := by
  have each : ∀ node ∈ root.preorder, Ascend node.children ↔ node.lateParts = [] := by
    intro node mem
    exact (text.of_mem_preorder grammatical mem).ascend_children_iff
      (grammatical.of_mem_preorder mem)
  refine ⟨each, ?_⟩
  rw [walk_eq_preorder]
  constructor
  · intro ascend node mem
    have children_among := (children_sublist_preorder node).trans (preorder_sublist mem)
    exact (each node mem).mp (ascend.sublist children_among)
  · exact text.ascend_preorder grammatical

end Node

namespace Specimen

/-- A name at a place and a position. -/
def nameFrom (place : Place) (name : String) (start : Int) : Node :=
  ⟨place, .ident, [("name", .text name), ("name_pos", .position start)]⟩

/-- The file with the clause `package p` and a function `m`, whose name stands behind its
receivers. -/
def functionFile (receivers : List Node) : Node :=
  ⟨[], .file, [("package_pos", .position 1),
    ("name", .child (some (nameFrom [.field "name"] "p" 9))),
    ("decls", .children [⟨[.item 0, .field "decls"], .funcDecl, [("func_pos", .position 12),
      ("name", .child (some (nameFrom [.field "name", .item 0, .field "decls"] "m" 23))),
      ("params", .children []), ("results", .children []),
      ("body", .child (some ⟨[.field "body", .item 0, .field "decls"], .blockStmt,
        [("lbrace", .position 27), ("stmts", .children []), ("rbrace", .position 28)]⟩)),
      ("recv", .children receivers)]⟩])]⟩

/-- The receiver in `func (r T) m() {}`. -/
def receiver : Node :=
  let place : Place := [.item 0, .field "recv", .item 0, .field "decls"]
  ⟨place, .field, [("names", .children [nameFrom (.item 0 :: .field "names" :: place) "r" 18]),
    ("type", .child (some (nameFrom (.field "type" :: place) "T" 20)))]⟩

/-- A traversal goes forward through a function, and not through a method. -/
theorem traversal_functionFile :
    Node.Ascend (functionFile []).walk ∧ ¬Node.Ascend (functionFile [receiver]).walk := by
  have function := @Node.traversal_ascends_iff (functionFile []) (by decide +kernel)
    (by decide +kernel)
  have method := @Node.traversal_ascends_iff (functionFile [receiver]) (by decide +kernel)
    (by decide +kernel)
  constructor
  · rw [function.2]
    decide +kernel
  · rw [method.2]
    decide +kernel

/-- The parts of a method go back to the receiver, and so does a traversal of its file. -/
theorem method_descends :
    ¬∀ root : Node, root.kind = .file → root.IsGrammatical → root.IsProgramText →
      (∀ node ∈ root.preorder, Node.Ascend node.children) ∧ Node.Ascend root.walk := by
  intro forward
  have ascends := forward (functionFile [receiver]) rfl (by decide +kernel) (by decide +kernel)
  have parts_go_back : ∃ node ∈ (functionFile [receiver]).preorder, ¬Node.Ascend node.children := by
    decide +kernel
  obtain ⟨node, mem, not_ascend⟩ := parts_go_back
  exact not_ascend (ascends.1 node mem)

end Specimen

end ShadowLint
