import Stencil.Text.Basic

/-!
# The program that checks types

Types are checked by a small program of the language itself, which the tool starts in a directory of
its own: it loads a package, looks for a declared type, and prints it as a document.
`Checker.moduleFile` and `Checker.program` are the two files of that directory.
-/

namespace Stencil.Checker

/-- The module file of the program. -/
def moduleFile : Text := "module gogen.resolve\n\ngo 1.21\n"

/-- The lines of the program. -/
def lines : List String := [
  "",
  "package main",
  "",
  "import (",
  "\t\"bytes\"",
  "\t\"encoding/json\"",
  "\t\"flag\"",
  "\t\"fmt\"",
  "\t\"go/ast\"",
  "\t\"go/importer\"",
  "\t\"go/parser\"",
  "\t\"go/token\"",
  "\t\"go/types\"",
  "\t\"os\"",
  "\t\"os/exec\"",
  "\t\"path/filepath\"",
  ")",
  "",
  "type goListPkg struct \x7b",
  "\tImportPath string",
  "\tName       string",
  "\tDir        string",
  "\tGoFiles    []string",
  "\x7d",
  "",
  "type outTypeRef struct \x7b",
  "\tRepr  string \x60json:\"repr\"\x60",
  "\tShort string \x60json:\"short\"\x60",
  "\tKind  string \x60json:\"kind\"\x60",
  "\x7d",
  "",
  "type outVar struct \x7b",
  "\tName string     \x60json:\"name\"\x60",
  "\tType outTypeRef \x60json:\"type\"\x60",
  "\x7d",
  "",
  "type outMethod struct \x7b",
  "\tName     string   \x60json:\"name\"\x60",
  "\tParams   []outVar \x60json:\"params\"\x60",
  "\tResults  []outVar \x60json:\"results\"\x60",
  "\tVariadic bool     \x60json:\"variadic\"\x60",
  "\x7d",
  "",
  "type outField struct \x7b",
  "\tName     string     \x60json:\"name\"\x60",
  "\tType     outTypeRef \x60json:\"type\"\x60",
  "\tTag      string     \x60json:\"tag\"\x60",
  "\tEmbedded bool       \x60json:\"embedded\"\x60",
  "\x7d",
  "",
  "type outType struct \x7b",
  "\tKind    string      \x60json:\"kind\"\x60",
  "\tMethods []outMethod \x60json:\"methods,omitempty\"\x60",
  "\tFields  []outField  \x60json:\"fields,omitempty\"\x60",
  "\x7d",
  "",
  "type outPkg struct \x7b",
  "\tName string \x60json:\"name\"\x60",
  "\tPath string \x60json:\"path\"\x60",
  "\x7d",
  "",
  "var localQualifier types.Qualifier",
  "",
  "type outObj struct \x7b",
  "\tFound   bool     \x60json:\"found\"\x60",
  "\tPackage *outPkg  \x60json:\"package\"\x60",
  "\tImports []outPkg \x60json:\"imports\"\x60",
  "\tType    *outType \x60json:\"type\"\x60",
  "\x7d",
  "",
  "func main() \x7b",
  "\tvar dir, name string",
  "\tflag.StringVar(&dir, \"dir\", \"\", \"Go package directory\")",
  "\tflag.StringVar(&name, \"name\", \"\", \"Name of the Go type to resolve\")",
  "\tflag.Parse()",
  "",
  "\tif dir == \"\" || name == \"\" \x7b",
  "\t\tfmt.Fprintln(os.Stderr, \"missing --dir or --name\")",
  "\t\tos.Exit(2)",
  "\t\x7d",
  "\tif err := os.Chdir(dir); err != nil \x7b",
  "\t\tfmt.Fprintf(os.Stderr, \"chdir: %v\\n\", err)",
  "\t\tos.Exit(2)",
  "\t\x7d",
  "",
  "\tp, err := listPkg()",
  "\tif err != nil \x7b",
  "\t\tfmt.Fprintln(os.Stderr, err.Error())",
  "\t\tos.Exit(1)",
  "\t\x7d",
  "",
  "\tfset := token.NewFileSet()",
  "\tfiles := make([]*ast.File, 0, len(p.GoFiles))",
  "\tfor _, fn := range p.GoFiles \x7b",
  "\t\taf, err := parser.ParseFile(fset, filepath.Join(p.Dir, fn), nil, 0)",
  "\t\tif err != nil \x7b",
  "\t\t\tfmt.Fprintln(os.Stderr, err.Error())",
  "\t\t\tos.Exit(1)",
  "\t\t\x7d",
  "\t\tfiles = append(files, af)",
  "\t\x7d",
  "",
  "\tinfo := &types.Info\x7bTypes: map[ast.Expr]types.TypeAndValue\x7b\x7d\x7d",
  "\tconf := types.Config\x7b",
  "\t\tImporter: importer.ForCompiler(fset, \"source\", nil),",
  "\t\t// Keep going on type errors; the declaration may still be usable.",
  "\t\tError: func(error) \x7b\x7d,",
  "\t\x7d",
  "\tpkg, _ := conf.Check(p.ImportPath, fset, files, info)",
  "\tlocalQualifier = func(other *types.Package) string \x7b",
  "\t\tif other == pkg \x7b",
  "\t\t\treturn \"\"",
  "\t\t\x7d",
  "\t\treturn other.Name()",
  "\t\x7d",
  "",
  "\tout := outObj\x7bImports: []outPkg\x7b\x7d\x7d",
  "\tout.Package = &outPkg\x7bName: pkg.Name(), Path: pkg.Path()\x7d",
  "\tfor _, imp := range pkg.Imports() \x7b",
  "\t\tout.Imports = append(out.Imports, outPkg\x7bName: imp.Name(), Path: imp.Path()\x7d)",
  "\t\x7d",
  "",
  "\tif spec := findTypeSpec(files, name); spec != nil \x7b",
  "\t\tif t := info.TypeOf(spec.Type); t != nil \x7b",
  "\t\t\tout.Found = true",
  "\t\t\tout.Type = describeType(t, spec)",
  "\t\t\x7d",
  "\t\x7d",
  "",
  "\tenc := json.NewEncoder(os.Stdout)",
  "\tenc.SetEscapeHTML(false)",
  "\t_ = enc.Encode(out)",
  "\x7d",
  "",
  "func listPkg() (goListPkg, error) \x7b",
  "\tvar p goListPkg",
  "\tcmd := exec.Command(\"go\", \"list\", \"-json\", \".\")",
  "\tvar stdout, stderr bytes.Buffer",
  "\tcmd.Stdout = &stdout",
  "\tcmd.Stderr = &stderr",
  "\tif err := cmd.Run(); err != nil \x7b",
  "\t\treturn p, fmt.Errorf(\"go list failed: %v\\n%s\", err, stderr.String())",
  "\t\x7d",
  "\tif err := json.Unmarshal(stdout.Bytes(), &p); err != nil \x7b",
  "\t\treturn p, fmt.Errorf(\"failed to decode go list json: %v\", err)",
  "\t\x7d",
  "\treturn p, nil",
  "\x7d",
  "",
  "func findTypeSpec(files []*ast.File, name string) *ast.TypeSpec \x7b",
  "\tfor _, f := range files \x7b",
  "\t\tfor _, decl := range f.Decls \x7b",
  "\t\t\tgd, ok := decl.(*ast.GenDecl)",
  "\t\t\tif !ok || gd.Tok != token.TYPE \x7b",
  "\t\t\t\tcontinue",
  "\t\t\t\x7d",
  "\t\t\tfor _, spec := range gd.Specs \x7b",
  "\t\t\t\tts, ok := spec.(*ast.TypeSpec)",
  "\t\t\t\tif ok && ts.Name != nil && ts.Name.Name == name \x7b",
  "\t\t\t\t\treturn ts",
  "\t\t\t\t\x7d",
  "\t\t\t\x7d",
  "\t\t\x7d",
  "\t\x7d",
  "\treturn nil",
  "\x7d",
  "",
  "func describeType(t types.Type, spec *ast.TypeSpec) *outType \x7b",
  "\tswitch v := t.(type) \x7b",
  "\tcase *types.Interface:",
  "\t\tmethods := make([]outMethod, 0, v.NumExplicitMethods())",
  "\t\tfor _, fn := range explicitMethodsInSourceOrder(v, spec) \x7b",
  "\t\t\tsig := fn.Type().(*types.Signature)",
  "\t\t\tmethods = append(methods, outMethod\x7b",
  "\t\t\t\tName:     fn.Name(),",
  "\t\t\t\tParams:   tupleVars(sig.Params()),",
  "\t\t\t\tResults:  tupleVars(sig.Results()),",
  "\t\t\t\tVariadic: sig.Variadic(),",
  "\t\t\t\x7d)",
  "\t\t\x7d",
  "\t\treturn &outType\x7bKind: \"interface\", Methods: methods\x7d",
  "\tcase *types.Struct:",
  "\t\tfields := make([]outField, 0, v.NumFields())",
  "\t\tfor i := 0; i < v.NumFields(); i++ \x7b",
  "\t\t\tf := v.Field(i)",
  "\t\t\tfields = append(fields, outField\x7b",
  "\t\t\t\tName:     f.Name(),",
  "\t\t\t\tType:     typeRef(f.Type()),",
  "\t\t\t\tTag:      v.Tag(i),",
  "\t\t\t\tEmbedded: f.Embedded(),",
  "\t\t\t\x7d)",
  "\t\t\x7d",
  "\t\treturn &outType\x7bKind: \"struct\", Fields: fields\x7d",
  "\tdefault:",
  "\t\treturn &outType\x7bKind: typeKind(t)\x7d",
  "\t\x7d",
  "\x7d",
  "",
  "func tupleVars(tuple *types.Tuple) []outVar \x7b",
  "\tvars := make([]outVar, 0, tuple.Len())",
  "\tfor i := 0; i < tuple.Len(); i++ \x7b",
  "\t\tv := tuple.At(i)",
  "\t\tvars = append(vars, outVar\x7bName: v.Name(), Type: typeRef(v.Type())\x7d)",
  "\t\x7d",
  "\treturn vars",
  "\x7d",
  "",
  "func typeRef(t types.Type) outTypeRef \x7b",
  "\treturn outTypeRef\x7b",
  "\t\tRepr:  types.TypeString(t, nil),",
  "\t\tShort: types.TypeString(t, localQualifier),",
  "\t\tKind:  typeKind(t),",
  "\t\x7d",
  "\x7d",
  "",
  "// go/types keeps explicit methods sorted by name; recover declaration order from the AST.",
  "func explicitMethodsInSourceOrder(iface *types.Interface, spec *ast.TypeSpec) " ++
    "[]*types.Func \x7b",
  "\tbyName := make(map[string]*types.Func, iface.NumExplicitMethods())",
  "\tfor i := 0; i < iface.NumExplicitMethods(); i++ \x7b",
  "\t\tfn := iface.ExplicitMethod(i)",
  "\t\tbyName[fn.Name()] = fn",
  "\t\x7d",
  "",
  "\tit, ok := spec.Type.(*ast.InterfaceType)",
  "\tif !ok || it.Methods == nil \x7b",
  "\t\tout := make([]*types.Func, 0, len(byName))",
  "\t\tfor i := 0; i < iface.NumExplicitMethods(); i++ \x7b",
  "\t\t\tout = append(out, iface.ExplicitMethod(i))",
  "\t\t\x7d",
  "\t\treturn out",
  "\t\x7d",
  "",
  "\tout := make([]*types.Func, 0, len(byName))",
  "\tfor _, f := range it.Methods.List \x7b",
  "\t\t// Embedded interfaces and type-set terms have no names.",
  "\t\tfor _, nm := range f.Names \x7b",
  "\t\t\tif fn, ok := byName[nm.Name]; ok \x7b",
  "\t\t\t\tout = append(out, fn)",
  "\t\t\t\x7d",
  "\t\t\x7d",
  "\t\x7d",
  "\treturn out",
  "\x7d",
  "",
  "func typeKind(t types.Type) string \x7b",
  "\tswitch t.(type) \x7b",
  "\tcase *types.Pointer:",
  "\t\treturn \"pointer\"",
  "\tcase *types.Basic:",
  "\t\treturn \"basic\"",
  "\tcase *types.Named:",
  "\t\treturn \"named\"",
  "\tcase *types.Slice:",
  "\t\treturn \"slice\"",
  "\tcase *types.Array:",
  "\t\treturn \"array\"",
  "\tcase *types.Map:",
  "\t\treturn \"map\"",
  "\tcase *types.Chan:",
  "\t\treturn \"chan\"",
  "\tcase *types.Signature:",
  "\t\treturn \"func\"",
  "\tcase *types.Struct:",
  "\t\treturn \"struct\"",
  "\tcase *types.Interface:",
  "\t\treturn \"interface\"",
  "\tcase *types.TypeParam:",
  "\t\treturn \"typeparam\"",
  "\tdefault:",
  "\t\treturn \"other\"",
  "\t\x7d",
  "\x7d"]

/-- The program. -/
def program : Text := lines.flatMap fun line => line.toList ++ ['\n']

end Stencil.Checker
