/-!
# The built-in preamble

What stands before the generated declarations unless a file replaces it: the
imports, the aggregates of JSON values, and the mixins that enums ask for.
-/

namespace ZigReflect

/-- The built-in preamble. -/
def defaultPreamble : String :=
  String.join [
    "//! Generated by typedoc-zig. DO NOT EDIT.\n",
    "\n",
    "const std = @import(\"std\");\n",
    "\n",
    "pub const LSPAny = std.json.Value;\n",
    "pub const LSPObject = std.json.ObjectMap;\n",
    "pub const LSPArray = []const std.json.Value;\n",
    "\n",
    "/// Serializes an enum by its tag name\n",
    "pub fn StringBackedEnumStringify(comptime T: type) type \x7b\n",
    "    return struct \x7b\n",
    "        pub fn jsonStringify(value: T, jw: anytype) !void \x7b\n",
    "            try jw.write(@tagName(value));\n",
    "        \x7d\n",
    "    \x7d;\n",
    "\x7d\n",
    "\n",
    "/// Serializes an enum by its integer value\n",
    "pub fn IntBackedEnumStringify(comptime T: type) type \x7b\n",
    "    return struct \x7b\n",
    "        pub fn jsonStringify(value: T, jw: anytype) !void \x7b\n",
    "            try jw.write(@intFromEnum(value));\n",
    "        \x7d\n",
    "    \x7d;\n",
    "\x7d\n",
    "\n"]

end ZigReflect
