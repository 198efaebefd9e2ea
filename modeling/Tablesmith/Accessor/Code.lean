import Tablesmith.Schema.Basic
import Tablesmith.Text.Characters

/-!
# Accessor code

Typed C# classes for the tables: one class per sheet name with a property per value column, and a
class that hands each document to the class of its sheet. Around these stand the lines that the code of every set of
tables has in common: the class that all of them extend, and the frame of the class that loads them.
-/

namespace Tablesmith.Accessor

/-- Lines of code, joined. -/
def unlines (lines : List String) : String :=
  String.intercalate "\n" lines

/-- The name of the file that holds the accessor code. -/
def fileName : String := "GameTables.cs"

/-- What the code needs from elsewhere. -/
def header : String :=
  unlines
    ["using System;",
      "using System.Collections.Generic;",
      "using System.Globalization;",
      "using System.Linq;",
      "using Newtonsoft.Json;",
      "",
      "// Auto-generated code. Do not edit by hand.",
      ""]

/-- The class that keeps the rows of a table by their key. -/
def baseClass : String :=
  unlines
    ["public abstract class GameTable<T> where T : GameTable<T>, new()",
      "\x7b",
      "    private static readonly Dictionary<string, T> _items = new();",
      "",
      "    public static void LoadData(string json)",
      "    \x7b",
      "        var data = JsonConvert.DeserializeObject<Dictionary<string, Dictionary<string, string>>>(json);",
      "        foreach (var kvp in data)",
      "        \x7b",
      "            var item = new T();",
      "            item.Parse(kvp.Value);",
      "            _items[kvp.Key] = item;",
      "        \x7d",
      "    \x7d",
      "",
      "    protected abstract void Parse(Dictionary<string, string> data);",
      "",
      "    public static IEnumerable<string> GetKeys() => _items.Keys;",
      "    public static T Get(string key) => _items.GetValueOrDefault(key);",
      "    public static IEnumerable<T> GetMany(IEnumerable<string> keys) => keys.Select(Get);",
      "    public static IEnumerable<T> GetAll() => _items.Values;",
      "    public static bool TryGet(string key, out T value) => _items.TryGetValue(key, out value);",
      "    public static IEnumerable<T> Where(Func<T, bool> predicate) => _items.Values.Where(predicate);",
      "\x7d"]

/-- The loading class up to its cases. -/
def managerOpening : List String :=
  ["public static class GameTableManager",
    "\x7b",
    "    public static void LoadAllData(Dictionary<string, string> jsonDict)",
    "    \x7b",
    "        foreach (var entry in jsonDict)",
    "        \x7b",
    "            string tableName = entry.Key;",
    "            string jsonData = entry.Value;",
    "            switch (tableName)",
    "            \x7b"]

/-- The loading class from its cases on. -/
def managerClosing : List String :=
  ["                default:",
    "                    throw new InvalidOperationException($\"Unknown table name: \x7btableName\x7d\");",
    "            \x7d",
    "        \x7d",
    "    \x7d",
    "\x7d"]

open Tablesmith.Text

/-- The expression that reads a property of a type out of a row of texts. -/
def parseExpression (name : String) (type : PropertyType) : String :=
  let value := "data[\"" ++ name ++ "\"]"
  match type with
  | .string => value
  | .bool => "bool.Parse(" ++ value ++ ")"
  | .dateTime =>
    "DateTime.ParseExact(" ++ value ++ ", \"yyyy-MM-dd HH:mm:ss\", CultureInfo.InvariantCulture)"
  | .timeSpan =>
    "TimeSpan.ParseExact(" ++ value ++ ", @\"hh\\:mm\\:ss\", CultureInfo.InvariantCulture)"
  | .int | .long | .float | .double =>
    type.name ++ ".Parse(" ++ value ++ ", CultureInfo.InvariantCulture)"

/-- The lines of a text; a line feed at the end begins no further line. -/
def splitLines : List Char → List (List Char)
  | [] => []
  | c :: rest =>
    if c = '\n' then [] :: splitLines rest
    else
      match splitLines rest with
      | [] => [[c]]
      | line :: lines => (c :: line) :: lines

/-- One character of a comment, with the three that markup reserves spelled out. -/
def escapeMarkup (c : Char) : String :=
  if c = '&' then "&amp;"
  else if c = '<' then "&lt;"
  else if c = '>' then "&gt;"
  else c.toString

def commentLine (line : List Char) : String :=
  if line = [] then "    ///" else "    /// " ++ String.join (line.map escapeMarkup)

/-- The lines of a description without white space at their ends, at least one. -/
def descriptionLines (description : String) : List (List Char) :=
  match splitLines description.toList with
  | [] => [[]]
  | lines => lines.map dropBlankEnd

/-- The documentation comment of a property. -/
def summary (description : String) : String :=
  unlines
    ("    /// <summary>" :: (descriptionLines description).map commentLine ++ ["    /// </summary>"])

def declaration (property : Property) : String :=
  summary property.description ++ "\n    public " ++ property.type.name ++ " " ++ property.name
    ++ " \x7b get; private set; \x7d"

/-- The statement that sets a property. -/
def assignment (property : Property) : String :=
  "        " ++ property.name ++ " = " ++ parseExpression property.name property.type ++ ";"

/-- The class of a sheet. -/
def tableClass (schema : Schema) : String :=
  let properties := schema.valueProperties.map schema.propertyAt
  unlines
    ["public class " ++ schema.name ++ " : GameTable<" ++ schema.name ++ ">",
      "\x7b",
      String.intercalate "\n\n" (properties.map declaration),
      "",
      "    protected override void Parse(Dictionary<string, string> data)",
      "    \x7b",
      unlines (properties.map assignment),
      "    \x7d",
      "\x7d"]

/-- The line that hands a document to the class of its sheet. -/
def managerCase (schema : Schema) : String :=
  "                case \"" ++ schema.name ++ "\": " ++ schema.name ++ ".LoadData(jsonData); break;"

/-- The class that loads all documents. -/
def managerClass (schemas : List Schema) : String :=
  unlines (managerOpening ++ schemas.map managerCase ++ managerClosing)

/-- The schemas whose sheet name is not that of an earlier one. -/
def firstOfName (seen : List String) : List Schema → List Schema
  | [] => []
  | schema :: rest =>
    if seen.contains schema.name then firstOfName seen rest
    else schema :: firstOfName (schema.name :: seen) rest

/-- The accessor code of a list of sheets. Of two sheets with one name the first makes the class. -/
def generate (schemas : List Schema) : String :=
  let sheets := firstOfName [] schemas
  String.intercalate "\n\n"
    [header, baseClass, String.intercalate "\n\n" (sheets.map tableClass), managerClass sheets]

end Tablesmith.Accessor
