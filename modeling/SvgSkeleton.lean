import SvgSkeleton.Main
import SvgSkeleton.Proofs.AddedFiles
import SvgSkeleton.Proofs.AttributeOrder
import SvgSkeleton.Proofs.ByteOffsets
import SvgSkeleton.Proofs.Composition
import SvgSkeleton.Proofs.Confinement
import SvgSkeleton.Proofs.DepthLimit
import SvgSkeleton.Proofs.DistinctKeys
import SvgSkeleton.Proofs.Embedding
import SvgSkeleton.Proofs.FamilyNames
import SvgSkeleton.Proofs.FaultPlaces
import SvgSkeleton.Proofs.Flattening
import SvgSkeleton.Proofs.FontFolder
import SvgSkeleton.Proofs.Grammar
import SvgSkeleton.Proofs.IncludeGraph
import SvgSkeleton.Proofs.JoinedPath
import SvgSkeleton.Proofs.Listing
import SvgSkeleton.Proofs.NormalPath
import SvgSkeleton.Proofs.OrderedMap
import SvgSkeleton.Proofs.Outline
import SvgSkeleton.Proofs.Precedence
import SvgSkeleton.Proofs.ReadBack
import SvgSkeleton.Proofs.Session
import SvgSkeleton.Proofs.Statistics
import SvgSkeleton.Proofs.VariableNames
import SvgSkeleton.Proofs.WellFormed
