import ParamGate.Text.Letters

/-!
The options of a pattern. Those set at its head hold for all of it, those of a group inside it.
-/

namespace ParamGate.Pattern

/-- What may be switched on or off. All of Unicode counts unless `ascii` is on, so `unicode` only
undoes an `ascii` of the group around. A pattern that is a `template` may repeat nothing. -/
structure Options where
  template : Bool := false
  ignoreCase : Bool := false
  multiline : Bool := false
  dotAll : Bool := false
  unicode : Bool := false
  verbose : Bool := false
  ascii : Bool := false
deriving DecidableEq, Repr

namespace Options

def combine (f : Bool → Bool → Bool) (o p : Options) : Options where
  template := f o.template p.template
  ignoreCase := f o.ignoreCase p.ignoreCase
  multiline := f o.multiline p.multiline
  dotAll := f o.dotAll p.dotAll
  unicode := f o.unicode p.unicode
  verbose := f o.verbose p.verbose
  ascii := f o.ascii p.ascii

def union (o p : Options) : Options := combine (· || ·) o p

def without (o p : Options) : Options := combine (fun a b => a && !b) o p

def meets (o p : Options) : Bool := combine (· && ·) o p != {}

/-- The options inside a group that switches some on and some off; one of `ascii` and `unicode`
takes the place of the other. -/
def inGroup (o on off : Options) : Options :=
  let o := if on.ascii || on.unicode then { o with ascii := false, unicode := false } else o
  (o.union on).without off

def ofLetter? : Char → Option Options
  | 't' => some { template := true }
  | 'i' => some { ignoreCase := true }
  | 'm' => some { multiline := true }
  | 's' => some { dotAll := true }
  | 'u' => some { unicode := true }
  | 'x' => some { verbose := true }
  | 'a' => some { ascii := true }
  | _ => none

def letters (o : Options) : Text.Letters := { ascii := o.ascii, ignoreCase := o.ignoreCase }

def names (o : Options) : List String :=
  (if o.template then ["re.TEMPLATE"] else []) ++
  (if o.ignoreCase then ["re.IGNORECASE"] else []) ++
  (if o.multiline then ["re.MULTILINE"] else []) ++
  (if o.dotAll then ["re.DOTALL"] else []) ++
  (if o.verbose then ["re.VERBOSE"] else []) ++
  (if o.ascii then ["re.ASCII"] else [])

end Options

end ParamGate.Pattern
