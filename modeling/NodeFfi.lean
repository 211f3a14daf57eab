import NodeFfi.Heap
import NodeFfi.Type
import NodeFfi.StructLayout
import NodeFfi.TypeCache
import NodeFfi.TypeStack
import NodeFfi.Cif
import NodeFfi.ForeignFunction
import NodeFfi.Callback
import NodeFfi.TypeId
import NodeFfi.Variadic
import NodeFfi.VariadicCache
import NodeFfi.DynamicLibrary
import NodeFfi.Library
