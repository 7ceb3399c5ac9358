import QueryDriver.Coercion

/-!
Builders: the named operations that make terms. A function starts a query; a method continues one,
with the term built so far as its first operand. Each operand is coerced with a budget of its own,
so that a chain may be of any length.
-/

namespace QueryDriver

namespace Term

/-- An operator node over host operands, which are coerced from left to right. -/
def call (tag : Tag) (operands : List Value) : Build Term :=
  return .op tag (← operands.mapM expr)

/-- Sets an option by its name; a literal has none. -/
def withOption (term : Term) (key : String) (value : Term) : Build Term :=
  match term with
  | .literal found => refuse (.optionOnLiteral key found)
  | .node tag operands options => return .node tag operands (Members.insert key value options)

def opt (term : Term) (key : String) (value : Value) : Build Term := do
  term.withOption key (← expr value)

end Term

inductive Method
  | table | tableCreate | tableDrop | tableList | config | wait
  | get | getAll | filter | between | count
  | insert | update | delete
  | append | prepend | difference | setInsert | setIntersection | setUnion | setDifference
  | slice | skip | limit | contains
  | getField | withFields | pluck | without
  | equals | notEquals | lt | le | gt | ge
  | apply
  | negate
  deriving DecidableEq, Inhabited

namespace Method

def all : List Method :=
  [.table, .tableCreate, .tableDrop, .tableList, .config, .wait, .get, .getAll, .filter, .between,
    .count, .insert, .update, .delete, .append, .prepend, .difference, .setInsert,
    .setIntersection, .setUnion, .setDifference, .slice, .skip, .limit, .contains, .getField,
    .withFields, .pluck, .without, .equals, .notEquals, .lt, .le, .gt, .ge, .apply, .negate]

def tag : Method → Tag
  | .table => .table
  | .tableCreate => .tableCreate
  | .tableDrop => .tableDrop
  | .tableList => .tableList
  | .config => .config
  | .wait => .wait
  | .get => .get
  | .getAll => .getAll
  | .filter => .filter
  | .between => .between
  | .count => .count
  | .insert => .insert
  | .update => .update
  | .delete => .delete
  | .append => .append
  | .prepend => .prepend
  | .difference => .difference
  | .setInsert => .setInsert
  | .setIntersection => .setIntersection
  | .setUnion => .setUnion
  | .setDifference => .setDifference
  | .slice => .slice
  | .skip => .skip
  | .limit => .limit
  | .contains => .contains
  | .getField => .getField
  | .withFields => .withFields
  | .pluck => .pluck
  | .without => .without
  | .equals => .eq
  | .notEquals => .ne
  | .lt => .lt
  | .le => .le
  | .gt => .gt
  | .ge => .ge
  | .apply => .funcall
  | .negate => .not

/-- Where the term so far goes among the operands: in front, except that an applied function comes
before what it is applied to. -/
def arrange (method : Method) (term : Term) (operands : List Value) : List Value :=
  match method, operands with
  | .apply, function :: others => function :: .term term :: others
  | _, operands => .term term :: operands

def build (method : Method) (term : Term) (operands : List Value) : Build Term :=
  Term.call method.tag (method.arrange term operands)

end Method

inductive Starter
  | db | dbCreate | dbDrop | dbList | table
  | eq | ne | lt | le | gt | ge | not
  | apply | js | uuid | uuidFrom
  deriving DecidableEq, Inhabited

namespace Starter

def all : List Starter :=
  [.db, .dbCreate, .dbDrop, .dbList, .table, .eq, .ne, .lt, .le, .gt, .ge, .not, .apply, .js, .uuid,
    .uuidFrom]

def tag : Starter → Tag
  | .db => .db
  | .dbCreate => .dbCreate
  | .dbDrop => .dbDrop
  | .dbList => .dbList
  | .table => .table
  | .eq => .eq
  | .ne => .ne
  | .lt => .lt
  | .le => .le
  | .gt => .gt
  | .ge => .ge
  | .not => .not
  | .apply => .funcall
  | .js => .javascript
  | .uuid => .uuid
  | .uuidFrom => .uuid

/-- Starts a query. An applied function is the first operand and its arguments follow. -/
def build (starter : Starter) (operands : List Value) : Build Term :=
  Term.call starter.tag operands

end Starter

end QueryDriver
