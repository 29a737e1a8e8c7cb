/-
  Rubric.Yaml.Node

  The tree of a YAML document.

  Nodes that carry an anchor are counted in the order in which they start, and an
  alias holds the number of the node it stands for, so that a node may stand
  inside itself.
-/
import Rubric.Yaml.Scanner

namespace Rubric.Yaml

/-- A node of a document. -/
inductive Node where
  | scalar (text : String) (plain : Bool) (tag : Option String)
  | sequence (tag : Option String) (items : List Node)
  | mapping (tag : Option String) (entries : List (Node × Node))
  | alias (anchor : Nat)
deriving Repr, Inhabited

namespace Node

/-- The node that stands where nothing is written. -/
def empty : Node := .scalar "" true none

mutual

/-- The size of a node: one for every scalar and alias, and two for the ends of
    every sequence and mapping. -/
def weight : Node → Nat
  | .scalar _ _ _ => 1
  | .sequence _ items => weightItems items + 2
  | .mapping _ entries => weightEntries entries + 2
  | .alias _ => 1

/-- The size of items. -/
def weightItems : List Node → Nat
  | [] => 0
  | x :: xs => weight x + weightItems xs

/-- The size of the entries of a mapping. -/
def weightEntries : List (Node × Node) → Nat
  | [] => 0
  | (k, v) :: rest => weight k + weight v + weightEntries rest

end

end Node

/-- A document: its root, and what its anchors stand for. -/
structure Tree where
  root : Node
  anchors : List (Nat × Node) := []
deriving Repr, Inhabited

/-- What is known while a document is read. -/
structure Reading where
  tokens : List Token
  /-- What the handles of tags stand for. -/
  handles : List (String × String) := []
  /-- The number of every anchor name. -/
  names : List (String × Nat) := []
  /-- How many nodes with an anchor have started. -/
  started : Nat := 0
  /-- For the number of a name, which of those nodes it means; the last one counts. -/
  meant : List (Nat × Nat) := []
  /-- The nodes with an anchor that have ended. -/
  ended : List (Nat × Node) := []
deriving Inhabited

namespace Reading

/-- The reading without its first token. -/
def next (r : Reading) : Reading := { r with tokens := r.tokens.tail }

/-- The value of a name in a list of pairs. -/
def find? {α : Type} (name : String) (pairs : List (String × α)) : Option α :=
  (pairs.find? fun p => p.1 == name).map Prod.snd

/-- Gives a name to the node that starts here. A new number is the count of the
    names so far, also where the name is not new. -/
def startAnchor (name : String) (r : Reading) : Reading :=
  let number := r.names.length
  let names :=
    if (find? name r.names).isSome then
      r.names.map fun p => if p.1 == name then (name, number) else p
    else (name, number) :: r.names
  { r with names := names, meant := (number, r.started) :: r.meant, started := r.started + 1 }

/-- The full tag that a handle and a suffix denote. -/
def fullTag? (handle suffix : String) (r : Reading) : Option String :=
  if handle == "" then some suffix
  else (find? handle r.handles).map (· ++ suffix)

end Reading

/-- What stands before the content of a node. -/
structure Properties where
  /-- Which of the nodes with an anchor this is. -/
  anchor : Option Nat := none
  tag : Option String := none
deriving Repr, Inhabited

/-- Reads an anchor, if there is one. -/
def readAnchor (p : Properties) (r : Reading) : Properties × Reading :=
  match r.tokens with
  | .anchor name :: _ => ({ p with anchor := some r.started }, (r.startAnchor name).next)
  | _ => (p, r)

/-- Reads a tag, if there is one. -/
def readTagProperty (p : Properties) (r : Reading) : Option (Properties × Reading) :=
  match r.tokens with
  | .tag handle suffix :: _ =>
    (r.fullTag? handle suffix).map fun tag => ({ p with tag := some tag }, r.next)
  | _ => some (p, r)

/-- Reads an anchor and a tag, in either order. -/
def readProperties (r : Reading) : Option (Properties × Reading) :=
  match r.tokens with
  | .anchor _ :: _ =>
    let (p, r) := readAnchor {} r
    readTagProperty p r
  | _ => (readTagProperty {} r).map fun (p, r) => readAnchor p r

/-- Keeps a node under its anchor. -/
def endAnchor (p : Properties) (node : Node) (r : Reading) : Reading :=
  match p.anchor with
  | some n => { r with ended := (n, node) :: r.ended }
  | none => r

/-- Whether the content of an entry is left out: the next token starts another. -/
def atEntryEnd (r : Reading) : Bool :=
  match r.tokens with
  | .key :: _ => true
  | .value :: _ => true
  | .closeBlock :: _ => true
  | _ => false

mutual

/-- Reads a node. `block` allows for indented content, and `loose` for items that
    are not indented. -/
def readNode : (fuel : Nat) → (block loose : Bool) → Reading → Option (Node × Reading)
  | 0, _, _, _ => none
  | fuel + 1, block, loose, r =>
    match r.tokens with
    | .alias name :: _ => (Reading.find? name r.names).map fun n => (.alias n, r.next)
    | _ =>
      match readProperties r with
      | none => none
      | some (p, r) =>
        let found : Option (Node × Reading) :=
          match r.tokens with
          | .dash :: _ =>
            if loose then
              (readLooseItems fuel r).map fun (items, r) => (.sequence p.tag items, r)
            else if p.anchor.isSome || p.tag.isSome then some (.scalar "" true p.tag, r)
            else none
          | .scalar text plain :: _ =>
            let tag := if p.tag == some "!" then none else p.tag
            some (.scalar text plain tag, r.next)
          | .leftBracket :: _ =>
            (readFlowItems fuel true r.next).map fun (items, r) => (.sequence p.tag items, r)
          | .leftBrace :: _ =>
            (readFlowEntries fuel true r.next).map fun (entries, r) => (.mapping p.tag entries, r)
          | .openSequence :: _ =>
            if block then
              (readItems fuel r.next).map fun (items, r) => (.sequence p.tag items, r)
            else if p.anchor.isSome || p.tag.isSome then some (.scalar "" true p.tag, r)
            else none
          | .openMapping :: _ =>
            if block then
              (readEntries fuel r.next).map fun (entries, r) => (.mapping p.tag entries, r)
            else if p.anchor.isSome || p.tag.isSome then some (.scalar "" true p.tag, r)
            else none
          | _ =>
            if p.anchor.isSome || p.tag.isSome then some (.scalar "" true p.tag, r) else none
        found.map fun (node, r) => (node, endAnchor p node r)

/-- Reads the items of an indented sequence. -/
def readItems : (fuel : Nat) → Reading → Option (List Node × Reading)
  | 0, _ => none
  | fuel + 1, r =>
    match r.tokens with
    | .closeBlock :: _ => some ([], r.next)
    | .dash :: rest =>
      let item := match rest with
        | .dash :: _ => some (Node.empty, r.next)
        | .closeBlock :: _ => some (Node.empty, r.next)
        | _ => readNode fuel true false r.next
      match item with
      | none => none
      | some (x, r) => (readItems fuel r).map fun (xs, r) => (x :: xs, r)
    | _ => none

/-- Reads the items of a sequence in a mapping that are not indented. -/
def readLooseItems : (fuel : Nat) → Reading → Option (List Node × Reading)
  | 0, _ => none
  | fuel + 1, r =>
    match r.tokens with
    | .dash :: rest =>
      let item := match rest with
        | .dash :: _ => some (Node.empty, r.next)
        | _ => if atEntryEnd r.next then some (Node.empty, r.next) else readNode fuel true false r.next
      match item with
      | none => none
      | some (x, r) => (readLooseItems fuel r).map fun (xs, r) => (x :: xs, r)
    | _ => some ([], r)

/-- Reads the entries of an indented mapping. -/
def readEntries : (fuel : Nat) → Reading → Option (List (Node × Node) × Reading)
  | 0, _ => none
  | fuel + 1, r =>
    match r.tokens with
    | .closeBlock :: _ => some ([], r.next)
    | .key :: _ =>
      let key :=
        if atEntryEnd r.next then some (Node.empty, r.next) else readNode fuel true true r.next
      match key with
      | none => none
      | some (k, r) =>
        let value := match r.tokens with
          | .value :: _ =>
            if atEntryEnd r.next then some (Node.empty, r.next) else readNode fuel true true r.next
          | _ => some (Node.empty, r)
        match value with
        | none => none
        | some (v, r) => (readEntries fuel r).map fun (rest, r) => ((k, v) :: rest, r)
    | _ => none

/-- Reads the items between brackets. `first` says that none was read. -/
def readFlowItems : (fuel : Nat) → (first : Bool) → Reading → Option (List Node × Reading)
  | 0, _, _ => none
  | fuel + 1, first, r =>
    let start := match r.tokens with
      | .rightBracket :: _ => some r
      | .comma :: _ => if first then some r else some r.next
      | _ => if first then some r else none
    match start with
    | none => none
    | some r =>
      match r.tokens with
      | .rightBracket :: _ => some ([], r.next)
      | .key :: _ =>
        match readFlowPair fuel r.next with
        | none => none
        | some (pair, r) =>
          (readFlowItems fuel false r).map fun (xs, r) => (.mapping none [pair] :: xs, r)
      | _ =>
        match readNode fuel false false r with
        | none => none
        | some (x, r) => (readFlowItems fuel false r).map fun (xs, r) => (x :: xs, r)

/-- Reads a key and its value that make up an item between brackets. A token in
    the place of a missing key is passed over. -/
def readFlowPair : (fuel : Nat) → Reading → Option ((Node × Node) × Reading)
  | 0, _ => none
  | fuel + 1, r =>
    let key := match r.tokens with
      | .value :: _ => some (Node.empty, r.next)
      | .comma :: _ => some (Node.empty, r.next)
      | .rightBracket :: _ => some (Node.empty, r.next)
      | _ => readNode fuel false false r
    match key with
    | none => none
    | some (k, r) =>
      let value := match r.tokens with
        | .value :: .comma :: _ => some (Node.empty, r.next)
        | .value :: .rightBracket :: _ => some (Node.empty, r.next)
        | .value :: _ => readNode fuel false false r.next
        | _ => some (Node.empty, r)
      value.map fun (v, r) => ((k, v), r)

/-- Reads the entries between braces. `first` says that none was read. -/
def readFlowEntries : (fuel : Nat) → (first : Bool) → Reading →
    Option (List (Node × Node) × Reading)
  | 0, _, _ => none
  | fuel + 1, first, r =>
    let start := match r.tokens with
      | .rightBrace :: _ => some r
      | .comma :: _ => if first then some r else some r.next
      | _ => if first then some r else none
    match start with
    | none => none
    | some r =>
      match r.tokens with
      | .rightBrace :: _ => some ([], r.next)
      | .key :: rest =>
        let key := match rest with
          | .value :: _ => some (Node.empty, r.next)
          | .comma :: _ => some (Node.empty, r.next)
          | .rightBrace :: _ => some (Node.empty, r.next)
          | _ => readNode fuel false false r.next
        match key with
        | none => none
        | some (k, r) =>
          let value := match r.tokens with
            | .value :: .comma :: _ => some (Node.empty, r.next)
            | .value :: .rightBrace :: _ => some (Node.empty, r.next)
            | .value :: _ => readNode fuel false false r.next
            | _ => some (Node.empty, r)
          match value with
          | none => none
          | some (v, r) => (readFlowEntries fuel false r).map fun (es, r) => ((k, v) :: es, r)
      | _ =>
        match readNode fuel false false r with
        | none => none
        | some (k, r) =>
          (readFlowEntries fuel false r).map fun (es, r) => ((k, .empty) :: es, r)

end

/-! ## Documents -/

/-- Whether a document without content starts here. -/
def atContentEnd : List Token → Bool
  | [] => true
  | .version _ _ :: _ => true
  | .tagHandle _ _ :: _ => true
  | .documentStart :: _ => true
  | .documentEnd :: _ => true
  | _ => false

/-- Reads the directives of a document. There is one version at most, of a kind
    that is known, and every handle is declared at most once. -/
def readDirectives : (versioned : Bool) → (handles : List (String × String)) → List Token →
    Option (List (String × String) × List Token)
  | versioned, handles, .version major minor :: rest =>
    if versioned || major != 1 || (minor != 1 && minor != 2) then none
    else readDirectives true handles rest
  | versioned, handles, .tagHandle handle stem :: rest =>
    if (Reading.find? handle handles).isSome then none
    else readDirectives versioned (handles ++ [(handle, stem)]) rest
  | _, handles, rest => some (handles, rest)

/-- The handles that need not be declared. -/
def defaultHandles : List (String × String) :=
  [("!", "!"), ("!!", "tag:yaml.org,2002:")]

/-- The tree of the tokens of a single document. -/
def Tree.ofTokens? (tokens : List Token) : Option Tree :=
  let fuel := 2 * tokens.length + 2
  let close : Option (Node × Reading) → Option Tree := fun found =>
    found.bind fun (node, r) =>
      if (r.tokens.dropWhile (· == .documentEnd)).isEmpty then
        some ⟨node, r.meant.filterMap fun (number, which) =>
          (r.ended.find? fun e => e.1 == which).map fun e => (number, e.2)⟩
      else none
  match tokens with
  | [] => some ⟨.empty, []⟩
  | _ =>
    match readDirectives false [] tokens with
    | none => none
    | some (handles, rest) =>
      let handles := handles ++ defaultHandles
      match rest with
      | .documentStart :: content =>
        if atContentEnd content then close (some (.empty, { tokens := content, handles := handles }))
        else close (readNode fuel true false { tokens := content, handles := handles })
      | _ =>
        if rest.length < tokens.length then none
        else close (readNode fuel true false { tokens := tokens, handles := handles })

end Rubric.Yaml
