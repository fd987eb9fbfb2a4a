import DebugBridge.Log.Record
import DebugBridge.Text.Alphanumeric
import DebugBridge.Text.Blank
import DebugBridge.Url.Host

/-!
# Log filters

A filter is a set of directives, each a level for the targets that begin with a name, or for all
that no other directive names; it may ask for a field as well, or be for spans of a name only.  A
filter comes from the configured level and from the environment, which is merged on top; whatever
of the two cannot be understood is left out.
-/

namespace DebugBridge

/-- The least important level to be logged; nothing at all when there is none. -/
abbrev Threshold := Option LogLevel

/-- What a directive is for. -/
structure LogTarget where
  /-- The beginning of targets; all targets, when there is none. -/
  name : Option String := none
  /-- The name of spans. -/
  span : Option String := none
  /-- A field that has to be there, and the value that it has in spans, as it is written. -/
  field : Option (String × Option String) := none
deriving DecidableEq

namespace LogTarget

/-- Whether records are told by it, whatever span they are in. -/
def isStatic (target : LogTarget) : Bool :=
  target.span.isNone && (target.field.bind (·.2)).isNone

/-- Whether spans are told by it. -/
def isDynamic (target : LogTarget) : Bool := target.span.isSome || target.field.isSome

end LogTarget

structure LogDirective where
  target : LogTarget
  threshold : Threshold
deriving DecidableEq

/-- Directives for different targets. -/
abbrev LogFilter := List LogDirective

namespace LogFilter

def thresholdName : Threshold → String
  | none => "off"
  | some .trace => "trace"
  | some .debug => "debug"
  | some .info => "info"
  | some .warn => "warn"
  | some .error => "error"

/-- The thresholds by their numbers. -/
def thresholds : List Threshold :=
  [none, some .error, some .warn, some .info, some .debug, some .trace]

def asciiLower (text : String) : String := String.ofList (text.toList.map Char.toLower)

/-- The number that a text consists of, perhaps with a plus sign in front. -/
def number? (text : List Char) : Option Nat :=
  let digits := match text with
    | '+' :: digits => digits
    | digits => digits
  if digits.isEmpty then none else Url.numberIn? 10 digits

/-- The threshold with a name, in any case, or with a number. -/
def threshold? (text : List Char) : Option Threshold :=
  (thresholds.find? fun threshold =>
    thresholdName threshold == asciiLower (String.ofList text)).or
      ((number? text).bind fun number => thresholds[number]?)

/-! ## Directives -/

/-- A directive from where its level may follow; without one it lets everything through. -/
def readLevel (target : LogTarget) : List Char → Option LogDirective
  | [] => some { target, threshold := some .trace }
  | ['='] => some { target, threshold := some .trace }
  | '=' :: level => (threshold? level).map fun threshold => { target, threshold }
  | _ => none

/-- A field, and its value if it has one: what stands between the first two equal signs. -/
def readField (text : List Char) : String × Option String :=
  match Url.splitAt (· == '=') text with
  | name :: value :: _ => (String.ofList name, some (String.ofList value))
  | _ => (String.ofList text, none)

/-- A directive from behind the bracket that opens its span. -/
def readSpan (name : Option String) (text : List Char) : Option LogDirective :=
  let span := text.takeWhile fun c => c != ']' && c != '\x7b'
  match text.drop span.length with
  | ']' :: rest => readLevel { name, span := some (String.ofList span) } rest
  | '\x7b' :: rest =>
    let field := rest.takeWhile (· != '\x7d')
    match rest.drop field.length with
    | '\x7d' :: ']' :: rest =>
      if field.isEmpty then none
      else
        let span := if span.isEmpty then none else some (String.ofList span)
        readLevel { name, span, field := some (readField field) } rest
    | _ => none
  | _ => none

/-- A character that a level or a name may begin with. -/
def opensName (c : Char) : Bool :=
  c == '-' || c == ':' || c == '_' || Text.isAlphanumeric c

/-- One directive: a level, or what it is for and its level. -/
def directive? (part : List Char) : Option LogDirective :=
  match Text.trimChars part with
  | [] => none
  | '[' :: rest => readSpan none rest
  | c :: rest =>
    if !opensName c then none
    else
      let name := (c :: rest).takeWhile fun c => c != '=' && c != '['
      let target : LogTarget := { name := some (String.ofList name) }
      match (c :: rest).drop name.length with
      | [] =>
        match threshold? name with
        | some threshold => some { target := {}, threshold }
        | none => readLevel target []
      | '[' :: rest => readSpan target.name rest
      | rest => readLevel target rest

/-- A later directive for a target takes the place of the earlier one. -/
def add (filter : LogFilter) (directive : LogDirective) : LogFilter :=
  if filter.any fun other => other.target == directive.target then
    filter.map fun other => if other.target = directive.target then directive else other
  else filter ++ [directive]

/-- The filter of a text; nothing when one of its directives cannot be understood. -/
def parse? (text : String) : Option LogFilter :=
  let parts := (Url.splitAt (· == ',') text.toList).filter fun part => !part.isEmpty
  (parts.mapM directive?).map fun directives => directives.foldl add []

/-- The level in the usual spelling; anything else is taken as directives. -/
def normalizeLevel (level : String) : String :=
  let trimmed := Text.trim level
  if trimmed.isEmpty then "info"
  else match asciiLower trimmed with
    | "trace" => "trace"
    | "debug" => "debug"
    | "info" => "info"
    | "warn" => "warn"
    | "warning" => "warn"
    | "error" => "error"
    | _ => trimmed

/-- Logs what is informative, of every target. -/
def standard : LogFilter := [{ target := {}, threshold := some .info }]

/-- The filter of the configured level alone. -/
def ofLevel (level : String) : LogFilter := (parse? (normalizeLevel level)).getD standard

/-- The filter of the configured level and the environment's text. -/
def effective (level : String) (environment : Option String) : LogFilter :=
  match (environment.map Text.trim).filter fun text => !text.isEmpty with
  | none => ofLevel level
  | some text =>
    match parse? (normalizeLevel level ++ "," ++ text) with
    | some filter => filter
    | none => (parse? text).getD (ofLevel level)

/-- The span and the field of a target in brackets; nothing when it has neither. -/
def spanText (target : LogTarget) : String :=
  if target.isDynamic then
    let field := match target.field with
      | none => ""
      | some (name, none) => "\x7b" ++ name ++ "\x7d"
      | some (name, some value) => "\x7b" ++ name ++ "=" ++ value ++ "\x7d"
    "[" ++ target.span.getD "" ++ field ++ "]"
  else ""

def directiveText (directive : LogDirective) : String :=
  let target := directive.target.name.getD "" ++ spanText directive.target
  if directive.target = {} then thresholdName directive.threshold
  else target ++ "=" ++ thresholdName directive.threshold

/-- The directives in words, in ascending order; those that tell records as well as spans are
there twice. -/
def texts (filter : LogFilter) : List String :=
  if filter.isEmpty then [""]
  else
    let listed := filter.filter (·.target.isStatic) ++ filter.filter (·.target.isDynamic)
    (listed.map directiveText).mergeSort fun a b => decide (a ≤ b)

/-- How specific a directive is for a record: by the length of its name, and then by its field.
Nothing when it is for others; there are no spans. -/
def specificity? (directive : LogDirective) (record : LogRecord) : Option (Nat × String) :=
  let named := directive.target.name.all fun name =>
    name.toList.isPrefixOf record.target.toList
  let present := directive.target.field.all fun field => (record.field? field.1).isSome
  if directive.target.isStatic && named && present then
    some (directive.target.name.elim 0 fun name => name.length + 1,
      directive.target.field.elim "" (·.1))
  else none

def isLess (first second : Nat × String) : Bool :=
  first.1 < second.1 || (first.1 == second.1 && first.2 < second.2)

/-- The directive that decides about a record: the most specific one. -/
def decisive? (filter : LogFilter) (record : LogRecord) : Option LogDirective :=
  (filter.foldl (fun (best : Option ((Nat × String) × LogDirective)) directive =>
    match specificity? directive record, best with
    | none, _ => best
    | some rank, none => some (rank, directive)
    | some rank, some (most, _) => if isLess most rank then some (rank, directive) else best)
    none).map (·.2)

/-- Whether a record is logged. -/
def admits (filter : LogFilter) (record : LogRecord) : Bool :=
  match (filter.decisive? record).bind (·.threshold) with
  | some least => least.rank ≤ record.level.rank
  | none => false

end LogFilter

end DebugBridge
