import PageWiring.Markup.CharacterReference

/-!
Reading a page: `events` gives the tags, comments and mistakes of a text in their order.
-/
namespace PageWiring.Markup

def isBlankChar (c : Char) : Bool := c == '\t' || c == '\n' || c == '\x0c' || c == ' '

/-- An ASCII letter in lower case. -/
def lowerLetter? (c : Char) : Option Char :=
  if ('a' ≤ c && c ≤ 'z') || ('A' ≤ c && c ≤ 'Z') then some c.toLower else none

namespace Draft

def keep (d : Draft) (_ : Char) : Draft := d

/-- Text in which references and tags are looked for; `less` is the mode behind a `<`. -/
def dataStep (less : Mode) (d : Draft) (c : Char) : Draft :=
  if c == '\x00' then d.bad
  else if c == '&' then d.startReference none
  else if c == '<' then d.enter less
  else d

def rawTextStep (kind : RawKind) (d : Draft) (c : Char) : Draft :=
  if c == '\x00' then d.bad
  else if c == '<' then d.enter (.rawLess kind)
  else d

def escapedStep (kind : RawKind) (d : Draft) (c : Char) : Draft :=
  if c == '\x00' then d.bad
  else if c == '-' then d.enter (.escapedDash kind)
  else if c == '<' then d.enter (.rawLess kind)
  else d

def tagOpenStep (d : Draft) (c : Char) : Draft :=
  if c == '!' then d.enter .declaration
  else if c == '/' then d.enter .endTagOpen
  else if c == '?' then d.bad.enter .bogusComment
  else
    match lowerLetter? c with
    | some l => (d.startTag false l).enter .tagName
    | none => d.bad.retry .data

def endTagOpenStep (d : Draft) (c : Char) : Draft :=
  if c == '>' then d.bad.enter .data
  else
    match lowerLetter? c with
    | some l => (d.startTag true l).enter .tagName
    | none => d.bad.enter .bogusComment

def tagNameStep (d : Draft) (c : Char) : Draft :=
  if isBlankChar c then d.enter .beforeName
  else if c == '/' then d.enter .selfClosing
  else if c == '>' then d.finishTag
  else if c == '\x00' then d.bad.pushTag '�'
  else d.pushTag c.toLower

def rawLessStep (kind : RawKind) (d : Draft) (c : Char) : Draft :=
  match kind with
  | .scriptEscaped =>
    if c == '/' then d.enter (.rawEndOpen kind)
    else
      match lowerLetter? c with
      | some l => { d with word := [l], mode := .doubleEscapeStart }
      | none => d.retry (.raw kind)
  | .scriptDoubleEscaped =>
    if c == '/' then { d with word := [], mode := .doubleEscapeEnd } else d.retry (.raw kind)
  | _ =>
    if c == '/' then d.enter (.rawEndOpen kind)
    else if c == '!' && kind == .script then d.enter .escapeStart
    else d.retry (.raw kind)

def rawEndOpenStep (kind : RawKind) (d : Draft) (c : Char) : Draft :=
  match lowerLetter? c with
  | some l => (d.startTag true l).enter (.rawEndName kind)
  | none => d.retry (.raw kind)

def rawEndNameStep (kind : RawKind) (d : Draft) (c : Char) : Draft :=
  if d.closesLast && isBlankChar c then d.enter .beforeName
  else if d.closesLast && c == '/' then d.enter .selfClosing
  else if d.closesLast && c == '>' then d.finishTag
  else
    match lowerLetter? c with
    | some l => d.pushTag l
    | none => d.retry (.raw kind)

def endsWord (c : Char) : Bool := isBlankChar c || c == '/' || c == '>'

def isScriptWord (d : Draft) : Bool := d.word.reverse == "script".toList

def escapeStartStep (d : Draft) (c : Char) : Draft :=
  if c == '-' then d.enter .escapeStartDash else d.retry (.raw .script)

def escapeStartDashStep (d : Draft) (c : Char) : Draft :=
  if c == '-' then d.enter (.escapedDashDash .scriptEscaped) else d.retry (.raw .script)

def doubleEscapeStartStep (d : Draft) (c : Char) : Draft :=
  if endsWord c then
    d.enter (.raw (if d.isScriptWord then .scriptDoubleEscaped else .scriptEscaped))
  else
    match lowerLetter? c with
    | some l => { d with word := l :: d.word }
    | none => d.retry (.raw .scriptEscaped)

def doubleEscapeEndStep (d : Draft) (c : Char) : Draft :=
  if endsWord c then
    d.enter (.raw (if d.isScriptWord then .scriptEscaped else .scriptDoubleEscaped))
  else
    match lowerLetter? c with
    | some l => { d with word := l :: d.word }
    | none => d.retry (.raw .scriptDoubleEscaped)

def escapedDashStep (kind : RawKind) (d : Draft) (c : Char) : Draft :=
  if c == '-' then d.enter (.escapedDashDash kind)
  else if c == '<' then d.enter (.rawLess kind)
  else if c == '\x00' then d.bad.enter (.raw kind)
  else d.enter (.raw kind)

def escapedDashDashStep (kind : RawKind) (d : Draft) (c : Char) : Draft :=
  if c == '-' then d
  else if c == '<' then d.enter (.rawLess kind)
  else if c == '>' then d.enter (.raw .script)
  else if c == '\x00' then d.bad.enter (.raw kind)
  else d.enter (.raw kind)

def badIf (d : Draft) (cs : List Char) (c : Char) : Draft :=
  if cs.contains c then d.bad else d

def beforeNameStep (d : Draft) (c : Char) : Draft :=
  if isBlankChar c then d
  else if c == '/' then d.enter .selfClosing
  else if c == '>' then d.finishTag
  else if c == '\x00' then d.bad.startAttribute '�'
  else (d.badIf ['"', '\'', '<', '='] c).startAttribute c.toLower

def nameStep (d : Draft) (c : Char) : Draft :=
  if isBlankChar c then d.enter .afterName
  else if c == '/' then d.enter .selfClosing
  else if c == '=' then d.enter .beforeValue
  else if c == '>' then d.finishTag
  else if c == '\x00' then d.bad.pushName '�'
  else (d.badIf ['"', '\'', '<'] c).pushName c.toLower

def afterNameStep (d : Draft) (c : Char) : Draft :=
  if isBlankChar c then d
  else if c == '/' then d.enter .selfClosing
  else if c == '=' then d.enter .beforeValue
  else if c == '>' then d.finishTag
  else if c == '\x00' then d.bad.startAttribute '�'
  else (d.badIf ['"', '\'', '<'] c).startAttribute c.toLower

def beforeValueStep (d : Draft) (c : Char) : Draft × Bool :=
  if isBlankChar c || c == '\r' then (d, true)
  else if c == '"' then (d.enter (.value .double), true)
  else if c == '\'' then (d.enter (.value .single), true)
  else if c == '>' then (d.bad.finishTag, true)
  else (d.enter (.value .none), false)

def quotedStep (quote : Char) (d : Draft) (c : Char) : Draft :=
  if c == quote then d.enter .afterValue
  else if c == '&' then d.startReference (some quote)
  else if c == '\x00' then d.bad.pushValue '�'
  else d.pushValue c

def unquotedStep (d : Draft) (c : Char) : Draft :=
  if isBlankChar c then d.enter .beforeName
  else if c == '&' then d.startReference (some '>')
  else if c == '>' then d.finishTag
  else if c == '\x00' then d.bad.pushValue '�'
  else (d.badIf ['"', '\'', '<', '=', '`'] c).pushValue c

def afterValueStep (d : Draft) (c : Char) : Draft :=
  if isBlankChar c then d.enter .beforeName
  else if c == '/' then d.enter .selfClosing
  else if c == '>' then d.finishTag
  else d.bad.retry .beforeName

def selfClosingStep (d : Draft) (c : Char) : Draft :=
  if c == '>' then { d with isSelfClosing := true }.finishTag else d.bad.retry .beforeName

def commentStartStep (d : Draft) (c : Char) : Draft :=
  if c == '-' then d.enter .commentStartDash
  else if c == '\x00' then d.bad.enter .comment
  else if c == '>' then d.bad.finishComment
  else d.enter .comment

def commentStartDashStep (d : Draft) (c : Char) : Draft :=
  if c == '-' then d.enter .commentEnd
  else if c == '\x00' then d.bad.enter .comment
  else if c == '>' then d.bad.finishComment
  else d.enter .comment

def commentStep (d : Draft) (c : Char) : Draft :=
  if c == '-' then d.enter .commentEndDash
  else if c == '\x00' then d.bad
  else d

def commentEndDashStep (d : Draft) (c : Char) : Draft :=
  if c == '-' then d.enter .commentEnd
  else if c == '\x00' then d.bad.enter .comment
  else d.enter .comment

def commentEndStep (d : Draft) (c : Char) : Draft :=
  if c == '>' then d.finishComment
  else if c == '!' then d.bad.enter .commentEndBang
  else if c == '-' then d.bad
  else d.bad.enter .comment

def commentEndBangStep (d : Draft) (c : Char) : Draft :=
  if c == '-' then d.enter .commentEndDash
  else if c == '>' then d.finishComment
  else if c == '\x00' then d.bad.enter .comment
  else d.enter .comment

def bogusCommentStep (d : Draft) (c : Char) : Draft :=
  if c == '>' then d.finishComment else d

def doctypeStep (d : Draft) (c : Char) : Draft :=
  if isBlankChar c then d.enter .beforeDoctypeName else d.bad.retry .beforeDoctypeName

def beforeDoctypeNameStep (d : Draft) (c : Char) : Draft :=
  if isBlankChar c then d
  else if c == '\x00' then d.bad.enter .doctypeName
  else if c == '>' then d.bad.enter .data
  else d.enter .doctypeName

def doctypeNameStep (d : Draft) (c : Char) : Draft :=
  if isBlankChar c then d.enter .afterDoctypeName
  else if c == '>' then d.enter .data
  else if c == '\x00' then d.bad
  else d

def afterDoctypeNameStep (d : Draft) (c : Char) : Draft :=
  if isBlankChar c then d
  else if c == '>' then d.enter .data
  else d.bad.enter .bogusDoctype

def doctypeQuote (d : Draft) (which : DoctypeId) (quote : Char) : Draft :=
  d.enter (.doctypeId which quote)

def afterDoctypeWordStep (which : DoctypeId) (d : Draft) (c : Char) : Draft :=
  if isBlankChar c then d.enter (.beforeDoctypeId which)
  else if c == '"' || c == '\'' then d.bad.doctypeQuote which c
  else if c == '>' then d.bad.enter .data
  else d.bad.enter .bogusDoctype

def beforeDoctypeIdStep (which : DoctypeId) (d : Draft) (c : Char) : Draft :=
  if isBlankChar c then d
  else if c == '"' || c == '\'' then d.doctypeQuote which c
  else if c == '>' then d.bad.enter .data
  else d.bad.enter .bogusDoctype

def doctypeIdStep (which : DoctypeId) (quote : Char) (d : Draft) (c : Char) : Draft :=
  if c == quote then d.enter (.afterDoctypeId which)
  else if c == '\x00' then d.bad
  else if c == '>' then d.bad.enter .data
  else d

def afterDoctypeIdStep (which : DoctypeId) (d : Draft) (c : Char) : Draft :=
  match which with
  | .visible =>
    if isBlankChar c then d.enter .betweenDoctypeIds
    else if c == '"' || c == '\'' then d.bad.doctypeQuote .system c
    else if c == '>' then d.enter .data
    else d.bad.enter .bogusDoctype
  | .system =>
    if isBlankChar c then d
    else if c == '>' then d.enter .data
    else d.bad.enter .bogusDoctype

def betweenDoctypeIdsStep (d : Draft) (c : Char) : Draft :=
  if isBlankChar c then d
  else if c == '>' then d.enter .data
  else if c == '"' || c == '\'' then d.doctypeQuote .system c
  else d.bad.enter .bogusDoctype

def bogusDoctypeStep (d : Draft) (c : Char) : Draft :=
  if c == '>' then d.enter .data else d

end Draft

namespace Mode

/-- How the text is taken in text that may hold references. -/
def dataIntake (less : Mode) : Intake :=
  .text (fun c => ['\r', '\x00', '&', '<', '\n'].contains c) Draft.keep (Draft.dataStep less)

def rawIntake (kind : RawKind) : Intake :=
  match kind with
  | .replaceable => dataIntake (.rawLess kind)
  | .text | .script =>
    .text (fun c => ['\r', '\x00', '<', '\n'].contains c) Draft.keep (Draft.rawTextStep kind)
  | .scriptEscaped | .scriptDoubleEscaped =>
    .text (fun c => ['\r', '\x00', '-', '<', '\n'].contains c) Draft.keep (Draft.escapedStep kind)

def valueIntake (quoting : Quoting) : Intake :=
  let quoted (quote : Char) : Intake :=
    .text (fun c => ['\r', quote, '&', '\x00', '\n'].contains c) Draft.pushValue
      (Draft.quotedStep quote)
  match quoting with
  | .double => quoted '"'
  | .single => quoted '\''
  | .none =>
    .text (fun c => ['\r', '\t', '\n', '\x0c', ' ', '&', '>', '\x00'].contains c) Draft.pushValue
      Draft.unquotedStep

def intake : Mode → Intake
  | .data => dataIntake .tagOpen
  | .raw kind => rawIntake kind
  | .tagOpen => .next Draft.tagOpenStep
  | .endTagOpen => .next Draft.endTagOpenStep
  | .tagName => .next Draft.tagNameStep
  | .rawLess kind => .next (Draft.rawLessStep kind)
  | .rawEndOpen kind => .next (Draft.rawEndOpenStep kind)
  | .rawEndName kind => .next (Draft.rawEndNameStep kind)
  | .escapeStart => .next Draft.escapeStartStep
  | .escapeStartDash => .next Draft.escapeStartDashStep
  | .doubleEscapeStart => .next Draft.doubleEscapeStartStep
  | .doubleEscapeEnd => .next Draft.doubleEscapeEndStep
  | .escapedDash kind => .next (Draft.escapedDashStep kind)
  | .escapedDashDash kind => .next (Draft.escapedDashDashStep kind)
  | .beforeName => .next Draft.beforeNameStep
  | .name => .next Draft.nameStep
  | .afterName => .next Draft.afterNameStep
  | .beforeValue => .peek Draft.beforeValueStep
  | .value quoting => valueIntake quoting
  | .afterValue => .next Draft.afterValueStep
  | .selfClosing => .next Draft.selfClosingStep
  | .declaration => .declaration
  | .commentStart => .next Draft.commentStartStep
  | .commentStartDash => .next Draft.commentStartDashStep
  | .comment => .next Draft.commentStep
  | .commentEndDash => .next Draft.commentEndDashStep
  | .commentEnd => .next Draft.commentEndStep
  | .commentEndBang => .next Draft.commentEndBangStep
  | .bogusComment => .next Draft.bogusCommentStep
  | .doctype => .next Draft.doctypeStep
  | .beforeDoctypeName => .next Draft.beforeDoctypeNameStep
  | .doctypeName => .next Draft.doctypeNameStep
  | .afterDoctypeName => .doctypeWord
  | .afterDoctypeWord which => .next (Draft.afterDoctypeWordStep which)
  | .beforeDoctypeId which => .next (Draft.beforeDoctypeIdStep which)
  | .doctypeId which quote => .next (Draft.doctypeIdStep which quote)
  | .afterDoctypeId which => .next (Draft.afterDoctypeIdStep which)
  | .betweenDoctypeIds => .next Draft.betweenDoctypeIdsStep
  | .bogusDoctype => .next Draft.bogusDoctypeStep

end Mode

/-- How the text is taken: an open reference comes before the mode around it. -/
def Draft.intake (d : Draft) : Intake :=
  match d.reference with
  | some r => r.intake
  | none => d.mode.intake

namespace Machine

def declarationStep (m : Machine) : Machine :=
  match m.cursor.eatWord ['-', '-'] with
  | some cursor => settle m.events cursor (m.draft.enter .commentStart)
  | none =>
    match m.cursor.eatWord "doctype".toList with
    | some cursor => settle m.events cursor (m.draft.enter .doctype)
    | none => settle m.events m.cursor (m.draft.bad.enter .bogusComment)

def doctypeWordStep (m : Machine) : Machine × Bool :=
  match m.cursor.eatWord "public".toList with
  | some cursor => (settle m.events cursor (m.draft.enter (.afterDoctypeWord .visible)), true)
  | none =>
    match m.cursor.eatWord "system".toList with
    | some cursor => (settle m.events cursor (m.draft.enter (.afterDoctypeWord .system)), true)
    | none => { m with cursor := m.cursor.forgetReturn }.onNext Draft.afterDoctypeNameStep

/-- One step of the reading; false when the text has ended. -/
def step (m : Machine) : Machine × Bool :=
  match m.draft.intake with
  | .next f => m.onNext f
  | .text isSpecial plain special => m.onText isSpecial plain special
  | .peek f => m.onPeek f
  | .declaration => (m.declarationStep, true)
  | .doctypeWord => m.doctypeWordStep

/-- Steps until the text has ended, at most `limit` of them. -/
def run : Nat → Machine → Machine
  | 0, m => m
  | limit + 1, m =>
    match m.step with
    | (m, true) => run limit m
    | (m, false) => m

end Machine

/-- What the end of the text means in a mode. -/
def Draft.endStep (d : Draft) : Draft :=
  let cut := (d.fault .unexpectedEnd).enter .data
  match d.mode with
  | .data => d
  | .raw .scriptEscaped => cut
  | .raw .scriptDoubleEscaped => cut
  | .raw _ => d
  | .tagOpen | .endTagOpen | .tagName => cut
  | .beforeName | .name | .afterName | .value _ | .afterValue | .selfClosing => cut
  | .escapedDash _ | .escapedDashDash _ => cut
  | .beforeValue => d.enter (.value .none)
  | .rawLess kind | .rawEndOpen kind | .rawEndName kind => d.enter (.raw kind)
  | .escapeStart => d.enter (.raw .scriptEscaped)
  | .doubleEscapeStart => d.enter (.raw .scriptDoubleEscaped)
  | .escapeStartDash => d.enter (.raw .script)
  | .doubleEscapeEnd => d.enter (.raw .scriptDoubleEscaped)
  | .commentStart | .commentStartDash | .comment | .commentEndDash | .commentEnd
  | .commentEndBang => (d.fault .unexpectedEnd).finishComment
  | .bogusComment => d.finishComment
  | .declaration => d.bad.enter .bogusComment
  | .bogusDoctype => d.enter .data
  | .doctype | .beforeDoctypeName | .doctypeName | .afterDoctypeName | .afterDoctypeWord _
  | .beforeDoctypeId _ | .doctypeId _ _ | .afterDoctypeId _ | .betweenDoctypeIds => cut

namespace Machine

/-- Every character is read at most twice, and each time looked at by at most three steps. -/
def stepLimit (text : List Char) : Nat := 6 * text.length + 32

/-- A step on the draft alone, where the text has ended. -/
def atEnd (m : Machine) (f : Draft → Draft) : Machine := settle m.events m.cursor (f m.draft)

/-- Reads the rest of the text and its end. At most three modes follow each other at the end. -/
def finish (m : Machine) (limit : Nat) : Machine :=
  let m := run limit ((run limit m).atEnd Draft.endReference)
  ((m.atEnd Draft.endStep).atEnd Draft.endStep).atEnd Draft.endStep

end Machine

/-- The tags, comments and mistakes of a page. -/
def events (text : List Char) : List Event :=
  let start : Machine := { cursor := { input := Text.withoutMark text } }
  (start.finish (Machine.stepLimit text)).events.reverse

end PageWiring.Markup
