/-!
The catalog of operators. A compiled query is a tree of nodes `[code, [operands], {options}]`; the
code says what the node does, and each code has a name in the protocol.
-/

namespace QueryDriver

inductive Tag
  | datum
  | makeArray
  | makeObj
  | var
  | javascript
  | uuid
  | http
  | error
  | implicitVar
  | db
  | table
  | get
  | getAll
  | eq
  | ne
  | lt
  | le
  | gt
  | ge
  | not
  | add
  | sub
  | mul
  | div
  | mod
  | floor
  | ceil
  | round
  | append
  | prepend
  | difference
  | setInsert
  | setIntersection
  | setUnion
  | setDifference
  | slice
  | skip
  | limit
  | offsetsOf
  | contains
  | getField
  | keys
  | values
  | object
  | hasFields
  | withFields
  | pluck
  | without
  | merge
  | between
  | reduce
  | map
  | fold
  | filter
  | concatMap
  | orderBy
  | distinct
  | count
  | isEmpty
  | union
  | nth
  | bracket
  | innerJoin
  | outerJoin
  | eqJoin
  | zip
  | range
  | insertAt
  | deleteAt
  | changeAt
  | spliceAt
  | coerceTo
  | typeOf
  | update
  | delete
  | replace
  | insert
  | dbCreate
  | dbDrop
  | dbList
  | tableCreate
  | tableDrop
  | tableList
  | config
  | status
  | wait
  | reconfigure
  | rebalance
  | sync
  | grant
  | indexCreate
  | indexDrop
  | indexList
  | indexStatus
  | indexWait
  | indexRename
  | funcall
  | branch
  | or
  | and
  | forEach
  | func
  | asc
  | desc
  | info
  | matchPattern
  | upcase
  | downcase
  | sample
  | default
  | json
  | toJsonString
  | iso8601
  | toIso8601
  | epochTime
  | toEpochTime
  | now
  | literal
  | group
  | sum
  | avg
  | min
  | max
  | split
  | ungroup
  | random
  | changes
  | args
  | binary
  | minVal
  | maxVal
  deriving DecidableEq, Inhabited

namespace Tag

def code : Tag → Nat
  | .datum => 1
  | .makeArray => 2
  | .makeObj => 3
  | .var => 10
  | .javascript => 11
  | .uuid => 169
  | .http => 153
  | .error => 12
  | .implicitVar => 13
  | .db => 14
  | .table => 15
  | .get => 16
  | .getAll => 78
  | .eq => 17
  | .ne => 18
  | .lt => 19
  | .le => 20
  | .gt => 21
  | .ge => 22
  | .not => 23
  | .add => 24
  | .sub => 25
  | .mul => 26
  | .div => 27
  | .mod => 28
  | .floor => 183
  | .ceil => 184
  | .round => 185
  | .append => 29
  | .prepend => 80
  | .difference => 95
  | .setInsert => 88
  | .setIntersection => 89
  | .setUnion => 90
  | .setDifference => 91
  | .slice => 30
  | .skip => 70
  | .limit => 71
  | .offsetsOf => 87
  | .contains => 93
  | .getField => 31
  | .keys => 94
  | .values => 186
  | .object => 143
  | .hasFields => 32
  | .withFields => 96
  | .pluck => 33
  | .without => 34
  | .merge => 35
  | .between => 182
  | .reduce => 37
  | .map => 38
  | .fold => 187
  | .filter => 39
  | .concatMap => 40
  | .orderBy => 41
  | .distinct => 42
  | .count => 43
  | .isEmpty => 86
  | .union => 44
  | .nth => 45
  | .bracket => 170
  | .innerJoin => 48
  | .outerJoin => 49
  | .eqJoin => 50
  | .zip => 72
  | .range => 173
  | .insertAt => 82
  | .deleteAt => 83
  | .changeAt => 84
  | .spliceAt => 85
  | .coerceTo => 51
  | .typeOf => 52
  | .update => 53
  | .delete => 54
  | .replace => 55
  | .insert => 56
  | .dbCreate => 57
  | .dbDrop => 58
  | .dbList => 59
  | .tableCreate => 60
  | .tableDrop => 61
  | .tableList => 62
  | .config => 174
  | .status => 175
  | .wait => 177
  | .reconfigure => 176
  | .rebalance => 179
  | .sync => 138
  | .grant => 188
  | .indexCreate => 75
  | .indexDrop => 76
  | .indexList => 77
  | .indexStatus => 139
  | .indexWait => 140
  | .indexRename => 156
  | .funcall => 64
  | .branch => 65
  | .or => 66
  | .and => 67
  | .forEach => 68
  | .func => 69
  | .asc => 73
  | .desc => 74
  | .info => 79
  | .matchPattern => 97
  | .upcase => 141
  | .downcase => 142
  | .sample => 81
  | .default => 92
  | .json => 98
  | .toJsonString => 172
  | .iso8601 => 99
  | .toIso8601 => 100
  | .epochTime => 101
  | .toEpochTime => 102
  | .now => 103
  | .literal => 137
  | .group => 144
  | .sum => 145
  | .avg => 146
  | .min => 147
  | .max => 148
  | .split => 149
  | .ungroup => 150
  | .random => 151
  | .changes => 152
  | .args => 154
  | .binary => 155
  | .minVal => 180
  | .maxVal => 181

def name : Tag → String
  | .datum => "DATUM"
  | .makeArray => "MAKE_ARRAY"
  | .makeObj => "MAKE_OBJ"
  | .var => "VAR"
  | .javascript => "JAVASCRIPT"
  | .uuid => "UUID"
  | .http => "HTTP"
  | .error => "ERROR"
  | .implicitVar => "IMPLICIT_VAR"
  | .db => "DB"
  | .table => "TABLE"
  | .get => "GET"
  | .getAll => "GET_ALL"
  | .eq => "EQ"
  | .ne => "NE"
  | .lt => "LT"
  | .le => "LE"
  | .gt => "GT"
  | .ge => "GE"
  | .not => "NOT"
  | .add => "ADD"
  | .sub => "SUB"
  | .mul => "MUL"
  | .div => "DIV"
  | .mod => "MOD"
  | .floor => "FLOOR"
  | .ceil => "CEIL"
  | .round => "ROUND"
  | .append => "APPEND"
  | .prepend => "PREPEND"
  | .difference => "DIFFERENCE"
  | .setInsert => "SET_INSERT"
  | .setIntersection => "SET_INTERSECTION"
  | .setUnion => "SET_UNION"
  | .setDifference => "SET_DIFFERENCE"
  | .slice => "SLICE"
  | .skip => "SKIP"
  | .limit => "LIMIT"
  | .offsetsOf => "OFFSETS_OF"
  | .contains => "CONTAINS"
  | .getField => "GET_FIELD"
  | .keys => "KEYS"
  | .values => "VALUES"
  | .object => "OBJECT"
  | .hasFields => "HAS_FIELDS"
  | .withFields => "WITH_FIELDS"
  | .pluck => "PLUCK"
  | .without => "WITHOUT"
  | .merge => "MERGE"
  | .between => "BETWEEN"
  | .reduce => "REDUCE"
  | .map => "MAP"
  | .fold => "FOLD"
  | .filter => "FILTER"
  | .concatMap => "CONCAT_MAP"
  | .orderBy => "ORDER_BY"
  | .distinct => "DISTINCT"
  | .count => "COUNT"
  | .isEmpty => "IS_EMPTY"
  | .union => "UNION"
  | .nth => "NTH"
  | .bracket => "BRACKET"
  | .innerJoin => "INNER_JOIN"
  | .outerJoin => "OUTER_JOIN"
  | .eqJoin => "EQ_JOIN"
  | .zip => "ZIP"
  | .range => "RANGE"
  | .insertAt => "INSERT_AT"
  | .deleteAt => "DELETE_AT"
  | .changeAt => "CHANGE_AT"
  | .spliceAt => "SPLICE_AT"
  | .coerceTo => "COERCE_TO"
  | .typeOf => "TYPE_OF"
  | .update => "UPDATE"
  | .delete => "DELETE"
  | .replace => "REPLACE"
  | .insert => "INSERT"
  | .dbCreate => "DB_CREATE"
  | .dbDrop => "DB_DROP"
  | .dbList => "DB_LIST"
  | .tableCreate => "TABLE_CREATE"
  | .tableDrop => "TABLE_DROP"
  | .tableList => "TABLE_LIST"
  | .config => "CONFIG"
  | .status => "STATUS"
  | .wait => "WAIT"
  | .reconfigure => "RECONFIGURE"
  | .rebalance => "REBALANCE"
  | .sync => "SYNC"
  | .grant => "GRANT"
  | .indexCreate => "INDEX_CREATE"
  | .indexDrop => "INDEX_DROP"
  | .indexList => "INDEX_LIST"
  | .indexStatus => "INDEX_STATUS"
  | .indexWait => "INDEX_WAIT"
  | .indexRename => "INDEX_RENAME"
  | .funcall => "FUNCALL"
  | .branch => "BRANCH"
  | .or => "OR"
  | .and => "AND"
  | .forEach => "FOR_EACH"
  | .func => "FUNC"
  | .asc => "ASC"
  | .desc => "DESC"
  | .info => "INFO"
  | .matchPattern => "MATCH"
  | .upcase => "UPCASE"
  | .downcase => "DOWNCASE"
  | .sample => "SAMPLE"
  | .default => "DEFAULT"
  | .json => "JSON"
  | .toJsonString => "TO_JSON_STRING"
  | .iso8601 => "ISO8601"
  | .toIso8601 => "TO_ISO8601"
  | .epochTime => "EPOCH_TIME"
  | .toEpochTime => "TO_EPOCH_TIME"
  | .now => "NOW"
  | .literal => "LITERAL"
  | .group => "GROUP"
  | .sum => "SUM"
  | .avg => "AVG"
  | .min => "MIN"
  | .max => "MAX"
  | .split => "SPLIT"
  | .ungroup => "UNGROUP"
  | .random => "RANDOM"
  | .changes => "CHANGES"
  | .args => "ARGS"
  | .binary => "BINARY"
  | .minVal => "MINVAL"
  | .maxVal => "MAXVAL"

/-- Every operator, in the order of the catalog. -/
def all : List Tag :=
  [.datum, .makeArray, .makeObj, .var, .javascript, .uuid, .http, .error, .implicitVar, .db,
   .table, .get, .getAll, .eq, .ne, .lt, .le, .gt, .ge, .not, .add, .sub, .mul, .div, .mod, .floor,
   .ceil, .round, .append, .prepend, .difference, .setInsert, .setIntersection, .setUnion,
   .setDifference, .slice, .skip, .limit, .offsetsOf, .contains, .getField, .keys, .values,
   .object, .hasFields, .withFields, .pluck, .without, .merge, .between, .reduce, .map, .fold,
   .filter, .concatMap, .orderBy, .distinct, .count, .isEmpty, .union, .nth, .bracket, .innerJoin,
   .outerJoin, .eqJoin, .zip, .range, .insertAt, .deleteAt, .changeAt, .spliceAt, .coerceTo,
   .typeOf, .update, .delete, .replace, .insert, .dbCreate, .dbDrop, .dbList, .tableCreate,
   .tableDrop, .tableList, .config, .status, .wait, .reconfigure, .rebalance, .sync, .grant,
   .indexCreate, .indexDrop, .indexList, .indexStatus, .indexWait, .indexRename, .funcall, .branch,
   .or, .and, .forEach, .func, .asc, .desc, .info, .matchPattern, .upcase, .downcase, .sample,
   .default, .json, .toJsonString, .iso8601, .toIso8601, .epochTime, .toEpochTime, .now, .literal,
   .group, .sum, .avg, .min, .max, .split, .ungroup, .random, .changes, .args, .binary, .minVal,
   .maxVal]

def ofCode? (code : Nat) : Option Tag :=
  all.find? fun tag => tag.code = code

/-- A word with its first letter as it is and the others in lower case. -/
def capitalize : List Char → List Char
  | [] => []
  | first :: rest => first :: rest.map Char.toLower

/-- The words of a list of characters that underscores separate, joined and capitalized. -/
def joinWords (characters : List Char) : List Char :=
  (characters.splitOn '_').flatMap capitalize

def label : Tag → String
  | .minVal => "MinVal"
  | .maxVal => "MaxVal"
  | tag => String.ofList (joinWords tag.name.toList)

end Tag

end QueryDriver
