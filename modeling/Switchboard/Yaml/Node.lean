import Switchboard.Yaml.Token

/-!
# YAML documents

The tokens of a text make up at most one document, a tree of nodes.  An alias stands for the node
that its anchor marked; inside that node itself it stands for nothing readable.  A plain scalar is
what its spelling says, unless a standard tag says what it should be.
-/

namespace Switchboard
namespace Yaml

/-- A node of a document. -/
inductive Node where
  | null
  | bool (value : Bool)
  | integer (value : Int)
  /-- A spelling of a real number. -/
  | real (spelling : String)
  | text (value : String)
  | list (items : List Node)
  | table (entries : List (Node × Node))
  | unreadable

/-- Null, for want of another node. -/
instance : Inhabited Node := ⟨.null⟩

/-- A signed whole number in the given base. -/
def signed? (base : Nat) (text : List Char) : Option Int :=
  match Decimal.splitSign text with
  | (true, digits) => (Decimal.readBase? base (Nat.pow 2 63) digits).map fun n => -(n : Int)
  | (false, digits) => (Decimal.readBase? base Decimal.maxInt64 digits).map Int.ofNat

/-- A decimal whole number. -/
def decimal? (text : List Char) : Option Int := (Decimal.readInt64 text).toOption

/-- Whether a text spells a real number. -/
def isReal (text : String) : Bool :=
  [".inf", ".Inf", ".INF", "+.inf", "+.Inf", "+.INF", "-.inf", "-.Inf", "-.INF", ".nan", "NaN",
    ".NAN"].contains text || (Decimal.readDouble? text.toList).isSome

/-- The whole number that a plain scalar spells. -/
def integer? (text : List Char) : Option Int :=
  match text with
  | '0' :: 'x' :: digits => (signed? 16 digits).or (decimal? text)
  | '0' :: 'o' :: digits => (signed? 8 digits).or (decimal? text)
  | '+' :: digits => (decimal? digits).or (decimal? text)
  | _ => decimal? text

/-- The node of a plain scalar without a tag. -/
def Node.ofPlain (text : String) : Node :=
  match text with
  | "~" | "null" => .null
  | "true" => .bool true
  | "false" => .bool false
  | _ =>
    match integer? text.toList with
    | some value => .integer value
    | none => if isReal text then .real text else .text text

/-- The node of a plain scalar with a tag. -/
def Node.ofTagged (tag : Tag) (text : String) : Node :=
  match tag.handle, tag.suffix with
  | "!!", "bool" =>
    if text == "true" then .bool true else if text == "false" then .bool false else .unreadable
  | "!!", "int" => ((decimal? text.toList).map .integer).getD .unreadable
  | "!!", "float" => if isReal text then .real text else .unreadable
  | "!!", "null" => if text == "~" || text == "null" then .null else .unreadable
  | _, _ => .text text

/-- The node of a scalar. -/
def Node.ofScalar (tag : Option Tag) (plain : Bool) (text : String) : Node :=
  match plain, tag with
  | false, _ => .text text
  | true, some tag => .ofTagged tag text
  | true, none => .ofPlain text

/-- The entries that keys and values in turn make up, after a key that waits for its value; an
unreadable node is no key. -/
def pairUp : Option Node → List Node → List (Node × Node)
  | _, [] => []
  | none, .unreadable :: rest => pairUp none rest
  | none, key :: rest => pairUp (some key) rest
  | some key, value :: rest => (key, value) :: pairUp none rest

/-- The anchors seen so far: the number of each name, and the node of each number that is known. -/
structure Anchors where
  names : List (String × Nat)
  nodes : List (Nat × Node)

namespace Anchors

/-- A further anchor of the given name, and its number. -/
def add (name : String) (anchors : Anchors) : Nat × Anchors :=
  (anchors.names.length, { anchors with names := (name, anchors.names.length) :: anchors.names })

/-- The node of an anchor made known. -/
def set (number : Option Nat) (node : Node) (anchors : Anchors) : Anchors :=
  match number with
  | some number => { anchors with nodes := (number, node) :: anchors.nodes }
  | none => anchors

/-- The node that an alias stands for. -/
def find? (name : String) (anchors : Anchors) : Option Node :=
  (anchors.names.find? (·.1 == name)).map fun (_, number) =>
    ((anchors.nodes.find? (·.1 == number)).map (·.2)).getD .unreadable

end Anchors

/-- Reading results: what was read, the tokens after it and the anchors. -/
abbrev Read (α : Type) := Option (α × List Token × Anchors)

/-- The anchor and the tag in front of a node, in either order. -/
def readProperties (tokens : List Token) (anchors : Anchors) :
    (Option Nat × Option Tag) × List Token × Anchors :=
  match tokens with
  | .anchor name :: .tag tag :: rest | .tag tag :: .anchor name :: rest =>
    let (number, anchors) := anchors.add name
    ((some number, some tag), rest, anchors)
  | .anchor name :: rest =>
    let (number, anchors) := anchors.add name
    ((some number, none), rest, anchors)
  | .tag tag :: rest => ((none, some tag), rest, anchors)
  | rest => ((none, none), rest, anchors)

/-- What may stand at a place of a document. -/
inductive Place where
  /-- A node: in a block, and there also a list without indentation. -/
  | node (block inner : Bool)
  /-- The elements of a block list; one without indentation ends at the first other token. -/
  | elements (indented : Bool)
  /-- The keys and values of a block table, from a key on. -/
  | keys
  /-- The value of a block table, and what follows. -/
  | value
  /-- The elements of a flow list; the first needs no comma. -/
  | flowElements (first : Bool)
  /-- The keys and values of a flow table; the first needs no comma. -/
  | flowKeys (first : Bool)
  /-- The value of a flow table, and what follows. -/
  | flowValue

/-- Whether a token ends a block entry that has nothing in it. -/
def endsEntry (indented : Bool) : List Token → Bool
  | .blockEntry :: _ | .blockEnd :: _ => true
  | .key :: _ | .value :: _ => !indented
  | _ => false

/-- Whether a token shows that a key or value of a block table is missing. -/
def endsPart : List Token → Bool
  | .key :: _ | .value :: _ | .blockEnd :: _ => true
  | _ => false

/-- Whether a token ends an entry of a flow list or table that has nothing in it. -/
def endsFlow (closing : Token) : List Token → Bool
  | token :: _ => token == .flowEntry || token == closing
  | [] => false

/-- A node read in front of further nodes. -/
def before (node : Node) : Read (List Node) → Read (List Node) :=
  Option.map fun (nodes, rest) => (node :: nodes, rest)

/-- The nodes at a place: one where a single node may stand, else all up to the end of the list or
table, keys and values in turn. -/
def readAt? : Nat → Place → List Token → Anchors → Read (List Node)
  | 0, _, _, _ => none
  | fuel + 1, place, tokens, anchors =>
    -- The nodes of a collection after one that stands at `first`.
    let then? (first next : Place) (tokens : List Token) : Read (List Node) :=
      match readAt? fuel first tokens anchors with
      | some (nodes, tokens, anchors) =>
        (readAt? fuel next tokens anchors).map fun (more, rest) => (nodes ++ more, rest)
      | none => none
    let goOn (next : Place) (tokens : List Token) : Read (List Node) :=
      before .null (readAt? fuel next tokens anchors)
    match place with
    | .node block inner =>
      match tokens with
      | .alias name :: rest => (anchors.find? name).map fun node => ([node], rest, anchors)
      | _ =>
        let ((number, tag), tokens, anchors) := readProperties tokens anchors
        let done (node : Node) (rest : List Token) (anchors : Anchors) : Read (List Node) :=
          some ([node], rest, anchors.set number node)
        let all (make : List Node → Node) (place : Place) (rest : List Token) :
            Read (List Node) :=
          (readAt? fuel place rest anchors).bind fun (nodes, rest, anchors) =>
            done (make nodes) rest anchors
        let table (nodes : List Node) : Node := .table (pairUp none nodes)
        match tokens with
        | .scalar plain text :: rest => done (.ofScalar tag plain text) rest anchors
        | .flowSequence :: rest => all .list (.flowElements true) rest
        | .flowMapping :: rest => all table (.flowKeys true) rest
        | token :: rest =>
          if token == .blockEntry && inner then all .list (.elements false) tokens
          else if token == .blockSequence && block then all .list (.elements true) rest
          else if token == .blockMapping && block then all table .keys rest
          else if number.isSome || tag.isSome then done (.ofScalar tag true "") tokens anchors
          else none
        | [] =>
          if number.isSome || tag.isSome then done (.ofScalar tag true "") [] anchors else none
    | .elements indented =>
      match tokens with
      | .blockEntry :: rest =>
        if endsEntry indented rest then goOn place rest
        else then? (.node true false) place rest
      | .blockEnd :: rest => some ([], if indented then rest else tokens, anchors)
      | tokens => if indented then none else some ([], tokens, anchors)
    | .keys =>
      match tokens with
      | .key :: rest =>
        if endsPart rest then goOn .value rest else then? (.node true true) .value rest
      | .value :: _ => goOn .value tokens
      | .blockEnd :: rest => some ([], rest, anchors)
      | _ => none
    | .value =>
      match tokens with
      | .value :: rest =>
        if endsPart rest then goOn .keys rest else then? (.node true true) .keys rest
      | tokens => goOn .keys tokens
    | .flowElements first =>
      match tokens with
      | .flowSequenceEnd :: rest => some ([], rest, anchors)
      | _ =>
        let entry? (tokens : List Token) : Read (List Node) :=
          match tokens with
          | .flowSequenceEnd :: rest => some ([], rest, anchors)
          | .key :: rest =>
            -- An entry that is a table of one key.
            let key : Read (List Node) :=
              if endsFlow .flowSequenceEnd rest || rest.head? == some .value then
                some ([.null], rest.drop 1, anchors)
              else readAt? fuel (.node false false) rest anchors
            match key with
            | none => none
            | some (key, tokens, anchors) =>
              let value : Read (List Node) :=
                match tokens with
                | .value :: rest =>
                  if endsFlow .flowSequenceEnd rest then some ([.null], rest, anchors)
                  else readAt? fuel (.node false false) rest anchors
                | tokens => some ([.null], tokens, anchors)
              match value with
              | none => none
              | some (value, tokens, anchors) =>
                before (.table (pairUp none (key ++ value)))
                  (readAt? fuel (.flowElements false) tokens anchors)
          | tokens => then? (.node false false) (.flowElements false) tokens
        match first, tokens with
        | true, tokens => entry? tokens
        | false, .flowEntry :: rest => entry? rest
        | false, _ => none
    | .flowKeys first =>
      match tokens with
      | .flowMappingEnd :: rest => some ([], rest, anchors)
      | _ =>
        let entry? (tokens : List Token) : Read (List Node) :=
          match tokens with
          | .key :: rest =>
            if endsFlow .flowMappingEnd rest || rest.head? == some .value then
              goOn .flowValue rest
            else then? (.node false false) .flowValue rest
          | .value :: _ => goOn .flowValue tokens
          | .flowMappingEnd :: rest => some ([], rest, anchors)
          | tokens =>
            -- A key alone, whose value is missing.
            match readAt? fuel (.node false false) tokens anchors with
            | some (key, tokens, anchors) =>
              (readAt? fuel (.flowKeys false) tokens anchors).map
                fun (more, rest) => (key ++ .null :: more, rest)
            | none => none
        match first, tokens with
        | true, tokens => entry? tokens
        | false, .flowEntry :: rest => entry? rest
        | false, _ => none
    | .flowValue =>
      match tokens with
      | .value :: rest =>
        if endsFlow .flowMappingEnd rest then goOn (.flowKeys false) rest
        else then? (.node false false) (.flowKeys false) rest
      | tokens => goOn (.flowKeys false) tokens

/-- What is left after the ends of a document; nothing may be. -/
def isOver (tokens : List Token) : Bool :=
  (tokens.dropWhile (· == .documentEnd)).isEmpty

/-- The document of some tokens: none of no tokens. -/
def ofTokens? (tokens : List Token) : Option (Option Node) :=
  let whole (tokens : List Token) : Option (Option Node) :=
    match readAt? (4 * tokens.length + 8) (.node true false) tokens ⟨[], []⟩ with
    | some ([node], rest, _) => if isOver rest then some (some node) else none
    | _ => none
  match tokens with
  | [] => some none
  | .directive :: _ | .documentStart :: _ =>
    match tokens.dropWhile (· == .directive) with
    | .documentStart :: rest =>
      match rest with
      | [] | .documentEnd :: _ => if isOver rest then some (some .null) else none
      | rest => whole rest
    | _ => none
  | tokens => whole tokens

/-- The document that a text holds, if the text can be read. -/
def document? (text : String) : Option (Option Node) :=
  (tokens? text.toList).bind ofTokens?

end Yaml
end Switchboard
