import LinkAtlas.Markdown.Margin

namespace LinkAtlas.Markdown

/-!
# Raw HTML and autolinks

Every function here takes the text after a `<` and gives what follows the closing `>`.

* `tag?` — an opening or closing tag; over several lines only when this is allowed;
* `comment?`, `section?` — comments and sections of characters, `inlineHtml?` — all forms of inline
  HTML;
* `autolink?` — an address between angle brackets;
* `Opening` — the kinds of HTML block, told from the start of a line.
-/

/-- A letter of ASCII. -/
def isAsciiLetter (c : Char) : Bool := c.isAlpha

/-- A letter or digit of ASCII. -/
def isAsciiAlphanumeric (c : Char) : Bool := c.isAlphanum

/-- A punctuation character of ASCII. -/
def isAsciiPunctuation (c : Char) : Bool :=
  let n := c.toNat
  (0x21 ≤ n && n ≤ 0x2F) || (0x3A ≤ n && n ≤ 0x40) || (0x5B ≤ n && n ≤ 0x60) ||
    (0x7B ≤ n && n ≤ 0x7E)

/-- Equality of texts up to the case of ASCII letters. -/
def sameIgnoringCase (s t : List Char) : Bool := s.map Char.toLower == t.map Char.toLower

/-- What follows the first place where `mark` stands, and the mark; none when it stands nowhere. -/
def after? (mark : List Char) : List Char → Option (List Char)
  | [] => if mark.isEmpty then some [] else none
  | c :: rest =>
    if mark.isPrefixOf (c :: rest) then some ((c :: rest).drop mark.length) else after? mark rest

/-! ### Tags -/

/-- Skips the blanks inside a tag. A line end is skipped when `multiline`; the end of the text is
    no place for a tag to stop. -/
def tagGap? (multiline : Bool) : List Char → Option (List Char)
  | [] => none
  | c :: rest =>
    if isInlineBlank c then tagGap? multiline rest
    else if c = '\n' ∨ c = '\r' then if multiline then tagGap? multiline rest else none
    else some (c :: rest)

/-- A character that may follow the first one in the name of an attribute. -/
def isAttributeChar (c : Char) : Bool :=
  isAsciiAlphanumeric c || c == '_' || c == '.' || c == ':' || c == '-'

/-- A character of an attribute value without quotes. -/
def isBareValueChar (c : Char) : Bool :=
  ! (c == '\'' || c == '"' || c == ' ' || c == '=' || c == '>' || c == '<' || c == '\x60' ||
    c == '\n' || c == '\r')

/-- The rest of a value between quotes. -/
def quotedValue? (multiline : Bool) (quote : Char) : List Char → Option (List Char)
  | [] => none
  | c :: rest =>
    if c = quote then some rest
    else if (c = '\n' ∨ c = '\r') ∧ ! multiline then none
    else quotedValue? multiline quote rest

/-- The value of an attribute. -/
def attributeValue? (multiline : Bool) : List Char → Option (List Char)
  | [] => none
  | c :: rest =>
    if c = '"' ∨ c = '\'' then quotedValue? multiline c rest
    else if isBareValueChar c then some (rest.dropWhile isBareValueChar)
    else none

/-- An attribute: a name, and a value if an equals sign follows. -/
def attribute? (multiline : Bool) : List Char → Option (List Char)
  | [] => none
  | c :: rest =>
    if isAsciiLetter c ∨ c = '_' ∨ c = ':' then
      let rest := rest.dropWhile isAttributeChar
      match tagGap? multiline rest with
      | some ('=' :: value) => (tagGap? multiline value).bind (attributeValue? multiline)
      | some _ => some rest
      | none => none
    else none

/-- The attributes of an opening tag and its end. -/
def attributes? (multiline : Bool) : Nat → List Char → Option (List Char)
  | 0, _ => none
  | fuel + 1, s =>
    match tagGap? multiline s with
    | some ('>' :: rest) => some rest
    | some ('/' :: '>' :: rest) => some rest
    | some ('/' :: _) => none
    | some t =>
      -- No attribute without a blank before it.
      if t.length = s.length then none
      else (attribute? multiline t).bind (attributes? multiline fuel)
    | none => none

/-- A character of a tag name after the first. -/
def isTagNameChar (c : Char) : Bool := isAsciiAlphanumeric c || c == '-'

/-- An opening or closing tag. -/
def tag? (multiline : Bool) : List Char → Option (List Char)
  | '/' :: c :: rest =>
    if isAsciiLetter c then
      match (rest.dropWhile isTagNameChar).dropWhile isInlineBlank with
      | '>' :: rest => some rest
      | _ => none
    else none
  | c :: rest =>
    if isAsciiLetter c then attributes? multiline (rest.length + 1) (rest.dropWhile isTagNameChar)
    else none
  | [] => none

/-! ### Comments and the like -/

/-- A comment after its `<!-`. It ends at once with `>` or `->`, else at the first `-->`. -/
def comment? (s : List Char) : Option (List Char) :=
  if countLeading '-' s = 0 then none
  else
    let rest := s.dropWhile (· == '-')
    match rest with
    | '>' :: rest => some rest
    | _ => after? ['-', '-', '>'] rest

/-- A character-data section after its opening mark: it ends at the first closing brackets, if `>`
    follows them. -/
def section? (s : List Char) : Option (List Char) :=
  let rest := s.dropWhile (· != ']')
  match rest.dropWhile (· == ']') with
  | '>' :: tail => if rest.isEmpty then none else some tail
  | _ => none

/-- Inline HTML after its `<`. -/
def inlineHtml? : List Char → Option (List Char)
  | '!' :: '-' :: rest => comment? rest
  | '!' :: '[' :: 'C' :: 'D' :: 'A' :: 'T' :: 'A' :: '[' :: rest => section? rest
  | '!' :: c :: rest => if isAsciiLetter c then after? ['>'] rest else none
  | '?' :: rest => after? ['?', '>'] rest
  | s => tag? true s

/-! ### Autolinks -/

/-- A character of a scheme after the first. -/
def isSchemeChar (c : Char) : Bool := isAsciiAlphanumeric c || c == '.' || c == '-' || c == '+'

/-- The rest of an address that a scheme has opened. -/
def addressEnd? : List Char → Option (List Char)
  | [] => none
  | c :: rest =>
    if c = '>' then some rest
    else if c.toNat ≤ 0x20 ∨ c = '<' then none
    else addressEnd? rest

/-- An address with a scheme of two to thirty-two characters. -/
def uri? : List Char → Option (List Char)
  | [] => none
  | c :: rest =>
    if ! isAsciiLetter c then none
    else
      let scheme := rest.takeWhile isSchemeChar
      match rest.drop scheme.length with
      | ':' :: rest =>
        if 2 ≤ scheme.length + 1 ∧ scheme.length + 1 ≤ 32 then addressEnd? rest else none
      | _ => none

/-- A character before the `@` of a mail address. -/
def isMailboxChar (c : Char) : Bool :=
  isAsciiAlphanumeric c || ".!#$%&'*+/=?^_\x60\x7b|\x7d~-".toList.contains c

/-- The labels of a mail domain and the closing bracket. -/
def domain? : Nat → List Char → Option (List Char)
  | 0, _ => none
  | fuel + 1, s =>
    let label := s.takeWhile fun c => isAsciiAlphanumeric c || c == '-'
    if label.isEmpty ∨ 63 < label.length ∨ label.head? = some '-' ∨ label.getLast? = some '-' then none
    else
      match s.drop label.length with
      | '.' :: rest => domain? fuel rest
      | '>' :: rest => some rest
      | _ => none

/-- A mail address. -/
def mail? (s : List Char) : Option (List Char) :=
  let mailbox := s.takeWhile isMailboxChar
  if mailbox.isEmpty then none
  else
    match s.drop mailbox.length with
    | '@' :: rest => domain? (rest.length + 1) rest
    | _ => none

/-- An address between angle brackets, after its `<`. -/
def autolink? (s : List Char) : Option (List Char) := (uri? s).orElse fun _ => mail? s

/-! ### Blocks -/

/-- How an HTML block ends. -/
inductive Opening where
  /-- With the line that holds a mark. -/
  | untilMark (mark : List Char)
  /-- Before a blank line. -/
  | untilBlank
  deriving DecidableEq, Repr

/-- The elements whose block lasts until their closing tag. -/
def verbatimElements : List String := ["pre", "style", "script", "textarea"]

/-- The elements whose tags open a block that lasts until a blank line. -/
def blockElements : List String :=
  ["address", "article", "aside", "base", "basefont", "blockquote", "body", "caption", "center",
   "col", "colgroup", "dd", "details", "dialog", "dir", "div", "dl", "dt", "fieldset",
   "figcaption", "figure", "footer", "form", "frame", "frameset", "h1", "h2", "h3", "h4", "h5",
   "h6", "head", "header", "hr", "html", "iframe", "legend", "li", "link", "main", "menu",
   "menuitem", "nav", "noframes", "ol", "optgroup", "option", "p", "param", "search", "section",
   "summary", "table", "tbody", "td", "tfoot", "th", "thead", "title", "tr", "track", "ul"]

/-- The closing tag of the verbatim element that a text after `<` opens. -/
def verbatimEnd? (s : List Char) : Option (List Char) :=
  verbatimElements.findSome? fun name =>
    let n := name.toList.length
    if sameIgnoringCase (s.take n) name.toList &&
        (match s.drop n with
          | [] => true
          | c :: _ => isAsciiBlank c || c == '>') then
      some ('<' :: '/' :: name.toList ++ ['>'])
    else none

/-- The mark that ends the block which a text after `<` opens, when one does. -/
def markedEnd? (s : List Char) : Option (List Char) :=
  match verbatimEnd? s with
  | some mark => some mark
  | none =>
    match s with
    | '!' :: '-' :: '-' :: _ => some ['-', '-', '>']
    | '?' :: _ => some ['?', '>']
    | '!' :: '[' :: 'C' :: 'D' :: 'A' :: 'T' :: 'A' :: '[' :: _ => some [']', ']', '>']
    | '!' :: c :: _ => if isAsciiLetter c then some ['>'] else none
    | _ => none

/-- Whether a text after `<` starts with the tag of a block element. -/
def startsBlockElement (s : List Char) : Bool :=
  let s := if s.head? == some '/' then s.drop 1 else s
  let name := s.takeWhile isAsciiAlphanumeric
  blockElements.any (fun e => sameIgnoringCase e.toList name) &&
    (match s.drop name.length with
      | [] => true
      | '/' :: '>' :: _ => true
      | c :: _ => c == ' ' || c == '\t' || c == '\n' || c == '\r' || c == '>')

/-- The HTML block that a text after `<` opens in the middle of a paragraph. -/
def interruptingHtml? (s : List Char) : Option Opening :=
  match markedEnd? s with
  | some mark => some (.untilMark mark)
  | none => if startsBlockElement s then some .untilBlank else none

/-- The HTML block that a text after `<` opens: any complete tag alone on its line does so too. -/
def openingHtml? (s : List Char) : Option Opening :=
  match interruptingHtml? s with
  | some o => some o
  | none =>
    match tag? false s with
    | some rest => if isLineBlank rest then some .untilBlank else none
    | none => none

end LinkAtlas.Markdown
