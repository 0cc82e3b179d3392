import ScriptLint.Registry.Basic

/-!
# The built-in functions

The 57 functions of the standard library, by category. `Registry.builtIn` is the registry of all of
them, which every analysis uses unless it is given another one.
-/

namespace ScriptLint

namespace Catalogue

/-- A value of any type. -/
def anyValue : TypeExpr := .union [.null, .number, .string, .boolean, .object, .array]

/-- A value without parts. -/
def scalar : TypeExpr := .union [.null, .number, .string, .boolean]

/-- A number or an array of numbers. -/
def numbers : TypeExpr := .union [.number, .array]

/-- A number, unless there is none. -/
def maybeNumber : TypeExpr := .union [.number, .null]

/-- A parameter that must be given. -/
def required (name : String) (type : TypeExpr) (description : String) : Parameter :=
  { name, type, description }

/-- A parameter that may be left out. -/
def optional (name : String) (type : TypeExpr) (description : String) : Parameter :=
  { name, type, description, optional := true }

/-- The functions on strings. -/
def stringFunctions : List Signature :=
  [ { name := "Upper", category := "String"
      parameters := [required "str" (.one .string) "The string to convert"]
      returnType := .one .string
      description := "Converts a string to uppercase"
      examples := ["Upper(\"hello\") # Returns \"HELLO\""] },
    { name := "Lower", category := "String"
      parameters := [required "str" (.one .string) "The string to convert"]
      returnType := .one .string
      description := "Converts a string to lowercase"
      examples := ["Lower(\"HELLO\") # Returns \"hello\""] },
    { name := "Trim", category := "String"
      parameters := [required "str" (.one .string) "The string to trim"]
      returnType := .one .string
      description := "Removes leading and trailing whitespace from a string" },
    { name := "Replace", category := "String"
      parameters := [required "str" (.one .string) "The input string",
        required "search" (.one .string) "The substring to search for",
        required "replace" (.one .string) "The replacement string"]
      returnType := .one .string
      description := "Replaces all occurrences of a substring with another string" },
    { name := "Contains", category := "String"
      parameters := [required "str" (.one .string) "The string to search in",
        required "search" (.one .string) "The substring to search for"]
      returnType := .one .boolean
      description := "Checks if a string contains a substring" },
    { name := "StartsWith", category := "String"
      parameters := [required "str" (.one .string) "The string to check",
        required "prefix" (.one .string) "The prefix to check for"]
      returnType := .one .boolean
      description := "Checks if a string starts with a specific prefix" },
    { name := "EndsWith", category := "String"
      parameters := [required "str" (.one .string) "The string to check",
        required "suffix" (.one .string) "The suffix to check for"]
      returnType := .one .boolean
      description := "Checks if a string ends with a specific suffix" },
    { name := "Split", category := "String"
      parameters := [required "str" (.one .string) "The string to split",
        required "delimiter" (.one .string) "The delimiter to split on"]
      returnType := .one .array
      description := "Splits a string into an array using a delimiter" },
    { name := "Join", category := "String"
      parameters := [required "arr" (.one .array) "The array to join",
        required "separator" (.one .string) "The separator between elements"]
      returnType := .one .string
      description := "Joins an array into a string with a separator" },
    { name := "ToNumber", category := "String"
      parameters := [required "str" (.one .string) "The string to convert"]
      returnType := .one .number
      description := "Converts a string to a number" },
    { name := "RandomString", category := "String"
      parameters := [required "length" (.one .number) "The length of the string to generate",
        optional "characterSet" (.one .string) "Characters to draw from"]
      returnType := .one .string
      description :=
        "Generates a cryptographically secure random string of specified length from a " ++
        "character set" }]

/-- The functions on arrays. -/
def arrayFunctions : List Signature :=
  [ { name := "Length", category := "Array"
      parameters := [required "arr" (.one .array) "The array to measure"]
      returnType := .one .number
      description := "Returns the number of elements in an array" },
    { name := "First", category := "Array"
      parameters := [required "arr" (.one .array) "The array to get first element from"]
      returnType := anyValue
      description := "Returns the first element of an array, or null if empty" },
    { name := "Last", category := "Array"
      parameters := [required "arr" (.one .array) "The array to get last element from"]
      returnType := anyValue
      description := "Returns the last element of an array, or null if empty" },
    { name := "Append", category := "Array"
      parameters := [required "arr" (.one .array) "The array to append to",
        required "value" anyValue "The value to append"]
      returnType := .one .array
      description := "Adds a value to the end of an array and returns the modified array" },
    { name := "Pop", category := "Array"
      parameters := [required "arr" (.one .array) "The array to remove from"]
      returnType := anyValue
      description := "Removes and returns the last element from an array" },
    { name := "IndexOf", category := "Array"
      parameters := [required "source" (.union [.string, .array]) "The string or array to search",
        required "search" anyValue "The value to search for"]
      returnType := .one .number
      description :=
        "Returns the index of the first occurrence of a value in a string or array, or -1 if " ++
        "not found" },
    { name := "Insert", category := "Array"
      parameters := [required "arr" (.one .array) "The array to insert into",
        required "index" (.one .number) "The index to insert at",
        required "value" anyValue "The value to insert"]
      returnType := .one .array
      description := "Inserts a value at a specific index in an array" },
    { name := "RemoveAt", category := "Array"
      parameters := [required "arr" (.one .array) "The array to remove from",
        required "index" (.one .number) "The index to remove"]
      returnType := .one .array
      description := "Removes the element at a specific index from an array" },
    { name := "RemoveLast", category := "Array"
      parameters := [required "arr" (.one .array) "The array to remove from"]
      returnType := .one .array
      description := "Removes the last element from an array and returns the modified array" },
    { name := "Clear", category := "Array"
      parameters := [required "arr" (.one .array) "The array to clear"]
      returnType := .one .array
      description := "Removes all elements from an array" },
    { name := "Filter", category := "Array"
      parameters := [required "arr" (.one .array) "The array to filter",
        required "field" (.one .string) "The field name to check",
        required "operator" (.one .string) "The comparison operator (==, !=, <, >, <=, >=)",
        required "value" scalar "The value to compare against"]
      returnType := .one .array
      description := "Filters array elements based on a field condition" },
    { name := "CountIf", category := "Array"
      parameters := [required "arr" (.one .array) "The array to count",
        required "field" (.one .string) "The field name to check",
        required "operator" (.one .string) "The comparison operator",
        required "value" scalar "The value to compare against"]
      returnType := .one .number
      description := "Counts array elements that match a field condition" },
    { name := "Sort", category := "Array"
      parameters := [required "arr" (.one .array) "The array to sort"]
      returnType := .one .array
      description := "Sorts an array in ascending order (numbers or strings)" },
    { name := "SortByField", category := "Array"
      parameters := [required "arr" (.one .array) "The array of objects to sort",
        required "field" (.one .string) "The field name to sort by",
        required "direction" (.one .string) "Sort direction (\"asc\" or \"desc\")"]
      returnType := .one .array
      description := "Sorts an array of objects by a specific field" },
    { name := "Reverse", category := "Array"
      parameters := [required "arr" (.one .array) "The array to reverse"]
      returnType := .one .array
      description := "Reverses the order of elements in an array" },
    { name := "MergeArrays", category := "Array"
      parameters := [required "arrays" (.one .array) "Multiple arrays to merge (variadic)"]
      returnType := .one .array
      description :=
        "Merges multiple arrays into a single array, concatenating all elements in order" },
    { name := "Take", category := "Array"
      parameters := [required "arr" (.one .array) "The source array to take elements from",
        required "count" (.one .number) "The number of elements to take from the beginning"]
      returnType := .one .array
      description := "Returns a new array containing the first n elements from a source array" },
    { name := "GroupBy", category := "Array"
      parameters := [required "arr" (.one .array) "The array of objects to group",
        required "fieldName" (.one .string) "The field name or nested path to group by"]
      returnType := .one .object
      description :=
        "Groups an array of objects by a field into an object of arrays keyed by the " ++
        "distinct values" },
    { name := "RandomChoice", category := "Array"
      parameters := [required "arr" (.one .array) "The array to select a random element from"]
      returnType := anyValue
      description := "Selects a random element from an array, or returns null if empty" }]

/-- The functions on numbers. -/
def mathFunctions : List Signature :=
  [ { name := "Min", category := "Math"
      parameters := [required "values" numbers "Numbers to compare (variadic or single array)"]
      returnType := maybeNumber
      description :=
        "Returns the minimum numeric value, or null if no numeric arguments provided" },
    { name := "Max", category := "Math"
      parameters := [required "values" numbers "Numbers to compare (variadic or single array)"]
      returnType := maybeNumber
      description :=
        "Returns the maximum numeric value, or null if no numeric arguments provided" },
    { name := "Sum", category := "Math"
      parameters := [required "values" numbers "Numbers to sum (variadic or single array)"]
      returnType := maybeNumber
      description :=
        "Returns the sum of all numeric values, or null if no numeric arguments provided" },
    { name := "Average", category := "Math"
      parameters := [required "values" numbers "Numbers to average (variadic or single array)"]
      returnType := maybeNumber
      description := "Returns the arithmetic mean of all numeric values" },
    { name := "Median", category := "Math"
      parameters := [required "values" numbers "Numbers to find median of"]
      returnType := maybeNumber
      description := "Returns the median (middle value) of all numeric values" },
    { name := "Mode", category := "Math"
      parameters := [required "values" numbers "Numbers to find mode of"]
      returnType := maybeNumber
      description := "Returns the most frequently occurring value" },
    { name := "Abs", category := "Math"
      parameters := [required "num" (.one .number) "The number"]
      returnType := .one .number
      description := "Returns the absolute value of a number" },
    { name := "Round", category := "Math"
      parameters := [required "num" (.one .number) "The number to round",
        required "decimals" (.one .number) "Number of decimal places"]
      returnType := .one .number
      description := "Rounds a number to a specified number of decimal places" },
    { name := "RandomInt", category := "Math"
      parameters := [optional "min" (.one .number) "The inclusive lower bound",
        required "max" (.one .number) "The exclusive upper bound"]
      returnType := .one .number
      description := "Generates a cryptographically secure random integer in [min, max)" }]

/-- The functions on dates and times. -/
def dateTimeFunctions : List Signature :=
  [ { name := "Now", category := "DateTime"
      parameters := []
      returnType := .one .string
      description := "Returns the current UTC date and time in ISO 8601 format" },
    { name := "Today", category := "DateTime"
      parameters := []
      returnType := .one .string
      description := "Returns the current UTC date at midnight in ISO 8601 format" },
    { name := "ParseDate", category := "DateTime"
      parameters := [required "str" (.one .string) "The date string to parse"]
      returnType := .one .string
      description := "Parses a date string and returns it in ISO 8601 format" },
    { name := "FormatDate", category := "DateTime"
      parameters := [required "date" (.one .string) "The date in ISO format",
        required "format" (.one .string) ".NET date format pattern"]
      returnType := .one .string
      description := "Formats a date using a .NET format pattern" },
    { name := "DateAdd", category := "DateTime"
      parameters := [required "date" (.one .string) "The date in ISO format",
        required "amount" (.one .number) "Amount to add (can be negative)",
        required "unit" (.one .string) "Unit: days, weeks, months, years, hours, minutes, seconds"]
      returnType := .one .string
      description := "Adds a time interval to a date" },
    { name := "DateDiff", category := "DateTime"
      parameters := [required "endDate" (.one .string) "The end date",
        required "startDate" (.one .string) "The start date",
        required "unit" (.one .string) "Unit to return difference in"]
      returnType := .one .number
      description := "Calculates the difference between two dates" },
    { name := "DatePart", category := "DateTime"
      parameters := [required "date" (.one .string) "The date in ISO format",
        required "part" (.one .string)
          "Part: year, month, day, hour, minute, second, dayofweek, dayofyear"]
      returnType := .one .number
      description := "Extracts a specific part from a date" }]

/-- The functions for everything else. -/
def utilityFunctions : List Signature :=
  [ { name := "TypeOf", category := "Utility"
      parameters := [required "value" anyValue "The value to inspect"]
      returnType := .one .string
      description := "Returns the type name of a value" },
    { name := "IsNull", category := "Utility"
      parameters := [required "value" anyValue "The value to check"]
      returnType := .one .boolean
      description := "Returns true if the value is null" },
    { name := "Exists", category := "Utility"
      parameters := [required "value" anyValue "The value to check"]
      returnType := .one .boolean
      description := "Returns true if the value is not null" },
    { name := "Equal", category := "Utility"
      parameters := [required "a" anyValue "The first value",
        required "b" anyValue "The second value"]
      returnType := .one .boolean
      description := "Performs deep equality comparison" },
    { name := "NotEqual", category := "Utility"
      parameters := [required "a" anyValue "The first value",
        required "b" anyValue "The second value"]
      returnType := .one .boolean
      description := "Returns true if values are not deeply equal" },
    { name := "Base64Encode", category := "Utility"
      parameters := [required "str" (.one .string) "The string to encode"]
      returnType := .one .string
      description := "Encodes a string to Base64" },
    { name := "Base64Decode", category := "Utility"
      parameters := [required "str" (.one .string) "The Base64 string to decode"]
      returnType := .one .string
      description := "Decodes a Base64 string" },
    { name := "NewGuid", category := "Utility"
      parameters := []
      returnType := .one .string
      description := "Generates a new GUID string" },
    { name := "CallScript", category := "Utility"
      parameters := [required "source" (.one .string) "The script source code",
        required "data" (.one .object) "The data object to pass"]
      returnType := .one .object
      description := "Executes a child script with cycle detection"
      examples := ["CallScript(\"Data.result = Data.value * 2\", \x7b \"value\": 5 \x7d)"] },
    { name := "Keys", category := "Utility"
      parameters := [required "obj" (.one .object) "The object to extract keys from"]
      returnType := .one .array
      description := "Returns an array containing all property names (keys) of an object" },
    { name := "InvokeRestMethod", category := "Utility"
      parameters := [required "url" (.one .string) "The URL to call",
        optional "method" (.one .string) "HTTP method (GET, POST, PUT, DELETE). Defaults to GET",
        optional "headers" (.one .object) "Request headers as key-value pairs",
        optional "body" anyValue "Request body (automatically JSON-serialized)"]
      returnType := .one .object
      description :=
        "Executes HTTP REST API calls and returns statusCode, isSuccessStatusCode, content " ++
        "and headers" }]

/-- All built-in functions. -/
def functions : List Signature :=
  stringFunctions ++ arrayFunctions ++ mathFunctions ++ dateTimeFunctions ++ utilityFunctions

end Catalogue

/-- The registry of the built-in functions. -/
def Registry.builtIn : Registry := ⟨Catalogue.functions, by decide⟩

end ScriptLint
