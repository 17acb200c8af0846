import Stencil.Text.Basic

/-!
# Example templates

The templates that come with the tool.
-/

namespace Stencil.Example

/-- Makes a mock of an interface: a struct with a function for each method, and methods that call
these functions. -/
def mock : Text :=
  "\x7b%- macro param_types(m) -%\x7d\n" ++
    "\x7b%- for p in m.params %\x7d\x7b\x7b p.decl_type \x7d\x7d\x7b% if not loop.last %\x7d, " ++
    "\x7b% endif %\x7d\x7b% endfor -%\x7d\n" ++
    "\x7b%- endmacro -%\x7d\n" ++
    "\x7b%- macro params(m) -%\x7d\n" ++
    "\x7b%- for p in m.params %\x7dp\x7b\x7b loop.index0 \x7d\x7d \x7b\x7b p.decl_type \x7d\x7d" ++
    "\x7b% if not loop.last %\x7d, \x7b% endif %\x7d\x7b% endfor -%\x7d\n" ++
    "\x7b%- endmacro -%\x7d\n" ++
    "\x7b%- macro args(m) -%\x7d\n" ++
    "\x7b%- for p in m.params %\x7dp\x7b\x7b loop.index0 \x7d\x7d\x7b% if p.variadic %\x7d..." ++
    "\x7b% endif %\x7d\x7b% if not loop.last %\x7d, \x7b% endif %\x7d\x7b% endfor -%\x7d\n" ++
    "\x7b%- endmacro -%\x7d\n" ++
    "\x7b%- macro results(m) -%\x7d\n" ++
    "\x7b%- if m.results | length == 1 %\x7d \x7b\x7b m.results[0].type.short_name \x7d\x7d\n" ++
    "\x7b%- elif m.results %\x7d (\x7b% for r in m.results %\x7d" ++
    "\x7b\x7b r.type.short_name \x7d\x7d\x7b% if not loop.last %\x7d, \x7b% endif %\x7d" ++
    "\x7b% endfor %\x7d)\n" ++
    "\x7b%- endif -%\x7d\n" ++
    "\x7b%- endmacro -%\x7d\n" ++
    "// Code generated by gogen. DO NOT EDIT.\n\n" ++
    "package \x7b\x7b package.name \x7d\x7d\n" ++
    "\x7b% if imports %\x7d\n" ++
    "import (\n" ++
    "\x7b%- for imp in imports %\x7d\n" ++
    "\t\x7b\x7b quote(imp.path) \x7d\x7d\n" ++
    "\x7b%- endfor %\x7d\n" ++
    ")\n" ++
    "\x7b% endif %\x7d\n" ++
    "// Mock\x7b\x7b name \x7d\x7d is a mock of \x7b\x7b name \x7d\x7d.\n" ++
    "type Mock\x7b\x7b name \x7d\x7d struct \x7b\n" ++
    "\x7b%- for m in methods %\x7d\n" ++
    "\t\x7b\x7b m.name \x7d\x7dFunc func(\x7b\x7b param_types(m) \x7d\x7d)" ++
    "\x7b\x7b results(m) \x7d\x7d\n" ++
    "\x7b%- endfor %\x7d\n" ++
    "\x7d\n" ++
    "\x7b% for m in methods %\x7d\n" ++
    "// \x7b\x7b m.name \x7d\x7d calls \x7b\x7b m.name \x7d\x7dFunc.\n" ++
    "func (m *Mock\x7b\x7b name \x7d\x7d) \x7b\x7b m.name \x7d\x7d(\x7b\x7b params(m) \x7d\x7d)" ++
    "\x7b\x7b results(m) \x7d\x7d \x7b\n" ++
    "\t\x7b% if m.results %\x7dreturn \x7b% endif %\x7dm.\x7b\x7b m.name \x7d\x7dFunc(" ++
    "\x7b\x7b args(m) \x7d\x7d)\n" ++
    "\x7d\n" ++
    "\x7b% endfor -%\x7d\n"

/-- Makes an accessor for each field of a struct that is not left out by its tag; the tag may name
the accessor. -/
def getter : Text :=
  "// Code generated by gogen. DO NOT EDIT.\n\n" ++
    "package \x7b\x7b package.name \x7d\x7d\n" ++
    "\x7b% for f in fields if f.tags.get(\"skip\") != \"true\" %\x7d\n" ++
    "// \x7b\x7b f.tags.get(\"alias\", \"Get\" ~ f.name) \x7d\x7d returns " ++
    "\x7b\x7b f.name \x7d\x7d.\n" ++
    "func (e *\x7b\x7b name \x7d\x7d) " ++
    "\x7b\x7b f.tags.get(\"alias\", \"Get\" ~ f.name) \x7d\x7d() " ++
    "\x7b\x7b f.type.short_name \x7d\x7d \x7b\n" ++
    "\treturn e.\x7b\x7b f.name \x7d\x7d\n" ++
    "\x7d\n" ++
    "\x7b% endfor -%\x7d\n"

end Stencil.Example
