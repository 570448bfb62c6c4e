import DiagramStudio.Document.Token

/-!
# The tree of a text

The tokens of a text are put together to a tree one by one. The state between two tokens is the
list of the brackets that are open, innermost first, with what each of them holds so far, and what
is wanted next.
-/

namespace DiagramStudio

namespace Tree

/-- An open bracket with what it holds so far, the newest first. -/
inductive Open where
  | list (items : List Doc)
  | object (members : List (Doc × Doc))
  /-- An object whose member of that key has no value yet. -/
  | member (members : List (Doc × Doc)) (key : Doc)

/-- What is wanted next. -/
inductive Want where
  /-- A value. -/
  | value
  /-- A value or the end of a list that is empty so far. -/
  | firstItem
  /-- A value after a comma. -/
  | nextItem
  /-- A key or the end of an object that is empty so far. -/
  | firstKey
  /-- A key after a comma. -/
  | nextKey
  /-- The colon after a key. -/
  | colon
  /-- A comma or the end of the innermost bracket. -/
  | separator
deriving DecidableEq

/-- The result of a token: more is wanted, or the tree is complete, or it can be read no
further. -/
inductive Progress where
  | more (stack : List Open) (want : Want)
  | done (doc : Doc)
  | stopped (doc : Doc)

/-- The whole tree, if nothing follows `doc` in the innermost bracket. -/
def enclose : List Open → Doc → Doc
  | [], doc => doc
  | .list items :: outer, doc => enclose outer (.list (doc :: items).reverse .broken)
  | .object members :: outer, _ => enclose outer (.object members.reverse .broken)
  | .member members key :: outer, doc =>
    enclose outer (.object ((key, doc) :: members).reverse .broken)

/-- The tree with a value in its place. -/
def settle (doc : Doc) : List Open → Progress
  | [] => .done doc
  | .list items :: outer => .more (.list (doc :: items) :: outer) .separator
  | .object members :: outer => .more (.object members :: outer) .separator
  | .member members key :: outer => .more (.object ((key, doc) :: members) :: outer) .separator

/-- The innermost bracket as a document. -/
def close (ending : Ending) : Open → Doc
  | .list items => .list items.reverse ending
  | .object members => .object members.reverse ending
  | .member members _ => .object members.reverse ending

/-- The whole tree, if the innermost bracket ends that way and nothing follows. -/
def leave (ending : Ending) : List Open → Doc
  | [] => .fault .missing
  | bracket :: outer => enclose outer (close ending bracket)

/-- The document that a token begins, as far as the token alone shows it. -/
def glimpse : Token → Doc
  | .leaf doc => doc
  | .openList => .list [] .broken
  | .openObject => .object [] .broken
  | _ => .fault .unexpected

/-- Whether nothing can be read after a leaf. -/
def stops : Doc → Bool
  | .fault reason => reason.stops
  | _ => false

/-- Whether a leaf is a string, readable or not, that comes to its end. -/
def isKey : Doc → Bool
  | .str _ => true
  | .fault (.text _ none) => true
  | _ => false

/-- A token where a value is wanted. -/
def stepValue (stack : List Open) : Token → Progress
  | .openList => .more (.list [] :: stack) .firstItem
  | .openObject => .more (.object [] :: stack) .firstKey
  | .leaf doc => if stops doc then .stopped (enclose stack doc) else settle doc stack
  | _ => .stopped (enclose stack (.fault .unexpected))

/-- A token where a key is wanted. Something that is no string ends the object as a key without a
value. -/
def stepKey (members : List (Doc × Doc)) (outer : List Open) (token : Token) : Progress :=
  let key := glimpse token
  if isKey key then .more (.member members key :: outer) .colon
  else .stopped (enclose outer (.object ((key, .fault .unexpected) :: members).reverse .broken))

/-- One token. -/
def step : List Open → Want → Token → Progress
  | bracket :: outer, .firstItem, .closeList => settle (close .closed bracket) outer
  | bracket :: outer, .nextItem, .closeList => .stopped (leave .danglingComma (bracket :: outer))
  | bracket :: outer, .firstKey, .closeObject => settle (close .closed bracket) outer
  | bracket :: outer, .nextKey, .closeObject => .stopped (leave .danglingComma (bracket :: outer))
  | .object members :: outer, .firstKey, token => stepKey members outer token
  | .object members :: outer, .nextKey, token => stepKey members outer token
  | stack, .colon, .colon => .more stack .value
  | stack, .colon, _ => .stopped (enclose stack (.fault .noColon))
  | .list items :: outer, .separator, .comma => .more (.list items :: outer) .nextItem
  | .list items :: outer, .separator, .closeList =>
    settle (close .closed (.list items)) outer
  | .object members :: outer, .separator, .comma => .more (.object members :: outer) .nextKey
  | .object members :: outer, .separator, .closeObject =>
    settle (close .closed (.object members)) outer
  | stack, .separator, _ => .stopped (leave .separator stack)
  | stack, _, token => stepValue stack token

/-- The tree if the text ends here. -/
def atEnd (stack : List Open) : Want → Doc
  | .value => enclose stack (.fault .missing)
  | .firstItem => leave .textEnd stack
  | .nextItem => leave .commaEnd stack
  | .firstKey => leave .textEnd stack
  | .nextKey => leave .commaEnd stack
  | .colon => enclose stack (.fault .colonCut)
  | .separator => leave .textEnd stack

/-- The tree that the tokens show, and the tokens behind it. -/
def build (stack : List Open) (want : Want) : List Token → Doc × List Token
  | [] => (atEnd stack want, [])
  | token :: rest =>
    match step stack want token with
    | .more stack want => build stack want rest
    | .done doc => (doc, rest)
    | .stopped doc => (doc, [])

end Tree

/-- The tree of the value at the front of a text, and whether the text goes on behind it. -/
def Doc.ofText (text : String) : Doc × Bool :=
  let (doc, rest) := Tree.build [] .value (Token.scan text.toList)
  (doc, !rest.isEmpty)

end DiagramStudio
