import UiTags.Text.Names

/-!
# Compatibility forms of names

Names are compared in their compatibility form, the normalization that folds ligatures,
full-width and mathematical letters, and the other compatibility characters into the
characters they stand for (`ﬁ` reads as `fi`, `ｘ` and `𝐱` as `x`). The table covers the
characters that may stand in a name and change under that normalization, from the Unicode 14
character database; each character is folded on its own.

The table is one text with a line per entry: a code point in hexadecimal, optionally `+` and a
count of code points in a row, then `;` and the code points of its form. A row of several code
points maps each to the form's single code point moved by the same offset.
-/

namespace UiTags
namespace Text

/-- The compatibility forms as one text, a line per entry. -/
def compatText : String :=
  "AA;61\nB5;3BC\nBA;6F\n132;49 4A\n133;69 6A\n13F;4C B7\n140;6C B7\n149;2BC 6E\n17F;73\n1C4;44 17D\n1C5;44 17E\n1C6;64 17E\n1C7;4C 4A\n1C8;4C 6A\n1C9;6C 6A\n1CA;4E 4A\n1CB;4E 6A\n" ++
  "1CC;6E 6A\n1F1;44 5A\n1F2;44 7A\n1F3;64 7A\n2B0;68\n2B1;266\n2B2;6A\n2B3;72\n2B4;279\n2B5;27B\n2B6;281\n2B7;77\n2B8;79\n2E0;263\n2E1;6C\n2E2;73\n2E3;78\n2E4;295\n340+2;300\n" ++
  "343;313\n344;308 301\n374;2B9\n387;B7\n3D0;3B2\n3D1;3B8\n3D2;3A5\n3D3;38E\n3D4;3AB\n3D5;3C6\n3D6;3C0\n3F0;3BA\n3F1+2;3C1\n3F4;398\n3F5;3B5\n3F9;3A3\n587;565 582\n675;627 674\n" ++
  "676;648 674\n677;6C7 674\n678;64A 674\n958;915 93C\n959;916 93C\n95A;917 93C\n95B;91C 93C\n95C;921 93C\n95D;922 93C\n95E;92B 93C\n95F;92F 93C\n9DC;9A1 9BC\n9DD;9A2 9BC\n" ++
  "9DF;9AF 9BC\nA33;A32 A3C\nA36;A38 A3C\nA59;A16 A3C\nA5A;A17 A3C\nA5B;A1C A3C\nA5E;A2B A3C\nB5C;B21 B3C\nB5D;B22 B3C\nE33;E4D E32\nEB3;ECD EB2\nEDC;EAB E99\nEDD;EAB EA1\n" ++
  "F43;F42 FB7\nF4D;F4C FB7\nF52;F51 FB7\nF57;F56 FB7\nF5C;F5B FB7\nF69;F40 FB5\nF73;F71 F72\nF75;F71 F74\nF76;FB2 F80\nF77;FB2 F71 F80\nF78;FB3 F80\nF79;FB3 F71 F80\nF81;F71 F80\n" ++
  "F93;F92 FB7\nF9D;F9C FB7\nFA2;FA1 FB7\nFA7;FA6 FB7\nFAC;FAB FB7\nFB9;F90 FB5\n10FC;10DC\n1D2C;41\n1D2D;C6\n1D2E;42\n1D30+2;44\n1D32;18E\n1D33+8;47\n1D3C;4F\n1D3D;222\n1D3E;50\n" ++
  "1D3F;52\n1D40+2;54\n1D42;57\n1D43;61\n1D44+2;250\n1D46;1D02\n1D47;62\n1D48+2;64\n1D4A;259\n1D4B+2;25B\n1D4D;67\n1D4F;6B\n1D50;6D\n1D51;14B\n1D52;6F\n1D53;254\n1D54+2;1D16\n" ++
  "1D56;70\n1D57+2;74\n1D59;1D1D\n1D5A;26F\n1D5B;76\n1D5C;1D25\n1D5D+3;3B2\n1D60+2;3C6\n1D62;69\n1D63;72\n1D64+2;75\n1D66+2;3B2\n1D68;3C1\n1D69+2;3C6\n1D78;43D\n1D9B;252\n1D9C;63\n" ++
  "1D9D;255\n1D9E;F0\n1D9F;25C\n1DA0;66\n1DA1;25F\n1DA2;261\n1DA3;265\n1DA4+3;268\n1DA7;1D7B\n1DA8;29D\n1DA9;26D\n1DAA;1D85\n1DAB;29F\n1DAC;271\n1DAD;270\n1DAE+4;272\n1DB2;278\n" ++
  "1DB3+2;282\n1DB5;1AB\n1DB6+2;289\n1DB8;1D1C\n1DB9+2;28B\n1DBB;7A\n1DBC+3;290\n1DBF;3B8\n1E9A;61 2BE\n1E9B;1E61\n1F71;3AC\n1F73;3AD\n1F75;3AE\n1F77;3AF\n1F79;3CC\n1F7B;3CD\n" ++
  "1F7D;3CE\n1FBB;386\n1FBE;3B9\n1FC9;388\n1FCB;389\n1FD3;390\n1FDB;38A\n1FE3;3B0\n1FEB;38E\n1FF9;38C\n1FFB;38F\n2071;69\n207F;6E\n2090;61\n2091;65\n2092;6F\n2093;78\n2094;259\n" ++
  "2095;68\n2096+4;6B\n209A;70\n209B+2;73\n2102;43\n2107;190\n210A;67\n210B;48\n210C;48\n210D;48\n210E;68\n210F;127\n2110;49\n2111;49\n2112;4C\n2113;6C\n2115;4E\n2119+3;50\n211C;52\n" ++
  "211D;52\n2124;5A\n2126;3A9\n2128;5A\n212A;4B\n212B;C5\n212C+2;42\n212F;65\n2130+2;45\n2133;4D\n2134;6F\n2135+4;5D0\n2139;69\n213C;3C0\n213D;3B3\n213E;393\n213F;3A0\n2145;44\n" ++
  "2146+2;64\n2148+2;69\n2160;49\n2161;49 49\n2162;49 49 49\n2163;49 56\n2164;56\n2165;56 49\n2166;56 49 49\n2167;56 49 49 49\n2168;49 58\n2169;58\n216A;58 49\n216B;58 49 49\n" ++
  "216C;4C\n216D+2;43\n216F;4D\n2170;69\n2171;69 69\n2172;69 69 69\n2173;69 76\n2174;76\n2175;76 69\n2176;76 69 69\n2177;76 69 69 69\n2178;69 78\n2179;78\n217A;78 69\n217B;78 69 69\n" ++
  "217C;6C\n217D+2;63\n217F;6D\n2C7C;6A\n2C7D;56\n2D6F;2D61\n3038;5341\n3039+2;5344\n309F;3088 308A\n30FF;30B3 30C8\n3131+2;1100\n3133;11AA\n3134;1102\n3135+2;11AC\n3137+3;1103\n" ++
  "313A+6;11B0\n3140;111A\n3141+3;1106\n3144;1121\n3145+10;1109\n314F+21;1161\n3164;1160\n3165+2;1114\n3167+2;11C7\n3169;11CC\n316A;11CE\n316B;11D3\n316C;11D7\n316D;11D9\n316E;111C\n" ++
  "316F;11DD\n3170;11DF\n3171+2;111D\n3173;1120\n3174+2;1122\n3176;1127\n3177;1129\n3178+5;112B\n317D;1132\n317E;1136\n317F;1140\n3180;1147\n3181;114C\n3182+2;11F1\n3184+3;1157\n" ++
  "3187+2;1184\n3189;1188\n318A+2;1191\n318C;1194\n318D;119E\n318E;11A1\nA69C;44A\nA69D;44C\nA770;A76F\nA7F2;43\nA7F3;46\nA7F4;51\nA7F8;126\nA7F9;153\nAB5C;A727\nAB5D;AB37\nAB5E;26B\n" ++
  "AB5F;AB52\nAB69;28D\nF900;8C48\nF901;66F4\nF902;8ECA\nF903;8CC8\nF904;6ED1\nF905;4E32\nF906;53E5\nF907;9F9C\nF908;9F9C\nF909;5951\nF90A;91D1\nF90B;5587\nF90C;5948\nF90D;61F6\n" ++
  "F90E;7669\nF90F;7F85\nF910;863F\nF911;87BA\nF912;88F8\nF913;908F\nF914;6A02\nF915;6D1B\nF916;70D9\nF917;73DE\nF918;843D\nF919;916A\nF91A;99F1\nF91B;4E82\nF91C;5375\nF91D;6B04\n" ++
  "F91E;721B\nF91F;862D\nF920;9E1E\nF921;5D50\nF922;6FEB\nF923;85CD\nF924;8964\nF925;62C9\nF926;81D8\nF927;881F\nF928;5ECA\nF929;6717\nF92A;6D6A\nF92B;72FC\nF92C;90CE\nF92D;4F86\n" ++
  "F92E;51B7\nF92F;52DE\nF930;64C4\nF931;6AD3\nF932;7210\nF933;76E7\nF934;8001\nF935;8606\nF936;865C\nF937;8DEF\nF938;9732\nF939;9B6F\nF93A;9DFA\nF93B;788C\nF93C;797F\nF93D;7DA0\n" ++
  "F93E;83C9\nF93F;9304\nF940;9E7F\nF941;8AD6\nF942;58DF\nF943;5F04\nF944;7C60\nF945;807E\nF946;7262\nF947;78CA\nF948;8CC2\nF949;96F7\nF94A;58D8\nF94B;5C62\nF94C;6A13\nF94D;6DDA\n" ++
  "F94E;6F0F\nF94F;7D2F\nF950;7E37\nF951;964B\nF952;52D2\nF953;808B\nF954;51DC\nF955;51CC\nF956;7A1C\nF957;7DBE\nF958;83F1\nF959;9675\nF95A;8B80\nF95B;62CF\nF95C;6A02\nF95D;8AFE\n" ++
  "F95E;4E39\nF95F;5BE7\nF960;6012\nF961;7387\nF962;7570\nF963;5317\nF964;78FB\nF965;4FBF\nF966;5FA9\nF967;4E0D\nF968;6CCC\nF969;6578\nF96A;7D22\nF96B;53C3\nF96C;585E\nF96D;7701\n" ++
  "F96E;8449\nF96F;8AAA\nF970;6BBA\nF971;8FB0\nF972;6C88\nF973;62FE\nF974;82E5\nF975;63A0\nF976;7565\nF977;4EAE\nF978;5169\nF979;51C9\nF97A;6881\nF97B;7CE7\nF97C;826F\nF97D;8AD2\n" ++
  "F97E;91CF\nF97F;52F5\nF980;5442\nF981;5973\nF982;5EEC\nF983;65C5\nF984;6FFE\nF985;792A\nF986;95AD\nF987;9A6A\nF988;9E97\nF989;9ECE\nF98A;529B\nF98B;66C6\nF98C;6B77\nF98D;8F62\n" ++
  "F98E;5E74\nF98F;6190\nF990;6200\nF991;649A\nF992;6F23\nF993;7149\nF994;7489\nF995;79CA\nF996;7DF4\nF997;806F\nF998;8F26\nF999;84EE\nF99A;9023\nF99B;934A\nF99C;5217\nF99D;52A3\n" ++
  "F99E;54BD\nF99F;70C8\nF9A0;88C2\nF9A1;8AAA\nF9A2;5EC9\nF9A3;5FF5\nF9A4;637B\nF9A5;6BAE\nF9A6;7C3E\nF9A7;7375\nF9A8;4EE4\nF9A9;56F9\nF9AA;5BE7\nF9AB;5DBA\nF9AC;601C\nF9AD;73B2\n" ++
  "F9AE;7469\nF9AF;7F9A\nF9B0;8046\nF9B1;9234\nF9B2;96F6\nF9B3;9748\nF9B4;9818\nF9B5;4F8B\nF9B6;79AE\nF9B7;91B4\nF9B8;96B8\nF9B9;60E1\nF9BA;4E86\nF9BB;50DA\nF9BC;5BEE\nF9BD;5C3F\n" ++
  "F9BE;6599\nF9BF;6A02\nF9C0;71CE\nF9C1;7642\nF9C2;84FC\nF9C3;907C\nF9C4;9F8D\nF9C5;6688\nF9C6;962E\nF9C7;5289\nF9C8;677B\nF9C9;67F3\nF9CA;6D41\nF9CB;6E9C\nF9CC;7409\nF9CD;7559\n" ++
  "F9CE;786B\nF9CF;7D10\nF9D0;985E\nF9D1;516D\nF9D2;622E\nF9D3;9678\nF9D4;502B\nF9D5;5D19\nF9D6;6DEA\nF9D7;8F2A\nF9D8;5F8B\nF9D9;6144\nF9DA;6817\nF9DB;7387\nF9DC;9686\nF9DD;5229\n" ++
  "F9DE;540F\nF9DF;5C65\nF9E0;6613\nF9E1;674E\nF9E2;68A8\nF9E3;6CE5\nF9E4;7406\nF9E5;75E2\nF9E6;7F79\nF9E7;88CF\nF9E8;88E1\nF9E9;91CC\nF9EA;96E2\nF9EB;533F\nF9EC;6EBA\nF9ED;541D\n" ++
  "F9EE;71D0\nF9EF;7498\nF9F0;85FA\nF9F1;96A3\nF9F2;9C57\nF9F3;9E9F\nF9F4;6797\nF9F5;6DCB\nF9F6;81E8\nF9F7;7ACB\nF9F8;7B20\nF9F9;7C92\nF9FA;72C0\nF9FB;7099\nF9FC;8B58\nF9FD;4EC0\n" ++
  "F9FE;8336\nF9FF;523A\nFA00;5207\nFA01;5EA6\nFA02;62D3\nFA03;7CD6\nFA04;5B85\nFA05;6D1E\nFA06;66B4\nFA07;8F3B\nFA08;884C\nFA09;964D\nFA0A;898B\nFA0B;5ED3\nFA0C;5140\nFA0D;55C0\n" ++
  "FA10;585A\nFA12;6674\nFA15;51DE\nFA16;732A\nFA17;76CA\nFA18;793C\nFA19;795E\nFA1A;7965\nFA1B;798F\nFA1C;9756\nFA1D;7CBE\nFA1E;7FBD\nFA20;8612\nFA22;8AF8\nFA25;9038\nFA26;90FD\n" ++
  "FA2A;98EF\nFA2B;98FC\nFA2C;9928\nFA2D;9DB4\nFA2E;90DE\nFA2F;96B7\nFA30;4FAE\nFA31;50E7\nFA32;514D\nFA33;52C9\nFA34;52E4\nFA35;5351\nFA36;559D\nFA37;5606\nFA38;5668\nFA39;5840\n" ++
  "FA3A;58A8\nFA3B;5C64\nFA3C;5C6E\nFA3D;6094\nFA3E;6168\nFA3F;618E\nFA40;61F2\nFA41;654F\nFA42;65E2\nFA43;6691\nFA44;6885\nFA45;6D77\nFA46;6E1A\nFA47;6F22\nFA48;716E\nFA49;722B\n" ++
  "FA4A;7422\nFA4B;7891\nFA4C;793E\nFA4D;7949\nFA4E;7948\nFA4F;7950\nFA50;7956\nFA51;795D\nFA52+2;798D\nFA54;7A40\nFA55;7A81\nFA56;7BC0\nFA57;7DF4\nFA58;7E09\nFA59;7E41\nFA5A;7F72\n" ++
  "FA5B;8005\nFA5C;81ED\nFA5D;8279\nFA5E;8279\nFA5F;8457\nFA60;8910\nFA61;8996\nFA62;8B01\nFA63;8B39\nFA64;8CD3\nFA65;8D08\nFA66;8FB6\nFA67;9038\nFA68;96E3\nFA69;97FF\nFA6A;983B\n" ++
  "FA6B;6075\nFA6C;242EE\nFA6D;8218\nFA70;4E26\nFA71;51B5\nFA72;5168\nFA73;4F80\nFA74;5145\nFA75;5180\nFA76;52C7\nFA77;52FA\nFA78;559D\nFA79;5555\nFA7A;5599\nFA7B;55E2\nFA7C;585A\n" ++
  "FA7D;58B3\nFA7E;5944\nFA7F;5954\nFA80;5A62\nFA81;5B28\nFA82;5ED2\nFA83;5ED9\nFA84;5F69\nFA85;5FAD\nFA86;60D8\nFA87;614E\nFA88;6108\nFA89;618E\nFA8A;6160\nFA8B;61F2\nFA8C;6234\n" ++
  "FA8D;63C4\nFA8E;641C\nFA8F;6452\nFA90;6556\nFA91;6674\nFA92;6717\nFA93;671B\nFA94;6756\nFA95;6B79\nFA96;6BBA\nFA97;6D41\nFA98;6EDB\nFA99;6ECB\nFA9A;6F22\nFA9B;701E\nFA9C;716E\n" ++
  "FA9D;77A7\nFA9E;7235\nFA9F;72AF\nFAA0;732A\nFAA1;7471\nFAA2;7506\nFAA3;753B\nFAA4;761D\nFAA5;761F\nFAA6;76CA\nFAA7;76DB\nFAA8;76F4\nFAA9;774A\nFAAA;7740\nFAAB;78CC\nFAAC;7AB1\n" ++
  "FAAD;7BC0\nFAAE;7C7B\nFAAF;7D5B\nFAB0;7DF4\nFAB1;7F3E\nFAB2;8005\nFAB3;8352\nFAB4;83EF\nFAB5;8779\nFAB6;8941\nFAB7;8986\nFAB8;8996\nFAB9;8ABF\nFABA;8AF8\nFABB;8ACB\nFABC;8B01\n" ++
  "FABD;8AFE\nFABE;8AED\nFABF;8B39\nFAC0;8B8A\nFAC1;8D08\nFAC2;8F38\nFAC3;9072\nFAC4;9199\nFAC5;9276\nFAC6;967C\nFAC7;96E3\nFAC8;9756\nFAC9;97DB\nFACA;97FF\nFACB;980B\nFACC;983B\n" ++
  "FACD;9B12\nFACE;9F9C\nFACF;2284A\nFAD0;22844\nFAD1;233D5\nFAD2;3B9D\nFAD3;4018\nFAD4;4039\nFAD5;25249\nFAD6;25CD0\nFAD7;27ED3\nFAD8;9F43\nFAD9;9F8E\nFB00;66 66\nFB01;66 69\n" ++
  "FB02;66 6C\nFB03;66 66 69\nFB04;66 66 6C\nFB05;73 74\nFB06;73 74\nFB13;574 576\nFB14;574 565\nFB15;574 56B\nFB16;57E 576\nFB17;574 56D\nFB1D;5D9 5B4\nFB1F;5F2 5B7\nFB20;5E2\n" ++
  "FB21;5D0\nFB22+2;5D3\nFB24+3;5DB\nFB27;5E8\nFB28;5EA\nFB2A;5E9 5C1\nFB2B;5E9 5C2\nFB2C;5E9 5BC 5C1\nFB2D;5E9 5BC 5C2\nFB2E;5D0 5B7\nFB2F;5D0 5B8\nFB30;5D0 5BC\nFB31;5D1 5BC\n" ++
  "FB32;5D2 5BC\nFB33;5D3 5BC\nFB34;5D4 5BC\nFB35;5D5 5BC\nFB36;5D6 5BC\nFB38;5D8 5BC\nFB39;5D9 5BC\nFB3A;5DA 5BC\nFB3B;5DB 5BC\nFB3C;5DC 5BC\nFB3E;5DE 5BC\nFB40;5E0 5BC\n" ++
  "FB41;5E1 5BC\nFB43;5E3 5BC\nFB44;5E4 5BC\nFB46;5E6 5BC\nFB47;5E7 5BC\nFB48;5E8 5BC\nFB49;5E9 5BC\nFB4A;5EA 5BC\nFB4B;5D5 5B9\nFB4C;5D1 5BF\nFB4D;5DB 5BF\nFB4E;5E4 5BF\n" ++
  "FB4F;5D0 5DC\nFB50;671\nFB51;671\nFB52;67B\nFB53;67B\nFB54;67B\nFB55;67B\nFB56;67E\nFB57;67E\nFB58;67E\nFB59;67E\nFB5A;680\nFB5B;680\nFB5C;680\nFB5D;680\nFB5E;67A\nFB5F;67A\n" ++
  "FB60;67A\nFB61;67A\nFB62;67F\nFB63;67F\nFB64;67F\nFB65;67F\nFB66;679\nFB67;679\nFB68;679\nFB69;679\nFB6A;6A4\nFB6B;6A4\nFB6C;6A4\nFB6D;6A4\nFB6E;6A6\nFB6F;6A6\nFB70;6A6\nFB71;6A6\n" ++
  "FB72;684\nFB73;684\nFB74;684\nFB75;684\nFB76;683\nFB77;683\nFB78;683\nFB79;683\nFB7A;686\nFB7B;686\nFB7C;686\nFB7D+2;686\nFB7F;687\nFB80;687\nFB81;687\nFB82;68D\nFB83;68D\n" ++
  "FB84;68C\nFB85;68C\nFB86;68E\nFB87;68E\nFB88;688\nFB89;688\nFB8A;698\nFB8B;698\nFB8C;691\nFB8D;691\nFB8E;6A9\nFB8F;6A9\nFB90;6A9\nFB91;6A9\nFB92;6AF\nFB93;6AF\nFB94;6AF\nFB95;6AF\n" ++
  "FB96;6B3\nFB97;6B3\nFB98;6B3\nFB99;6B3\nFB9A;6B1\nFB9B;6B1\nFB9C;6B1\nFB9D;6B1\nFB9E;6BA\nFB9F+2;6BA\nFBA1;6BB\nFBA2;6BB\nFBA3;6BB\nFBA4;6C0\nFBA5+2;6C0\nFBA7;6C1\nFBA8;6C1\n" ++
  "FBA9;6C1\nFBAA;6BE\nFBAB;6BE\nFBAC;6BE\nFBAD;6BE\nFBAE;6D2\nFBAF+2;6D2\nFBB1;6D3\nFBD3;6AD\nFBD4;6AD\nFBD5;6AD\nFBD6;6AD\nFBD7;6C7\nFBD8;6C7\nFBD9;6C6\nFBDA;6C6\nFBDB;6C8\n" ++
  "FBDC;6C8\nFBDD;6C7 674\nFBDE;6CB\nFBDF;6CB\nFBE0;6C5\nFBE1;6C5\nFBE2;6C9\nFBE3;6C9\nFBE4;6D0\nFBE5;6D0\nFBE6;6D0\nFBE7;6D0\nFBE8;649\nFBE9;649\nFBEA;626 627\nFBEB;626 627\n" ++
  "FBEC;626 6D5\nFBED;626 6D5\nFBEE;626 648\nFBEF;626 648\nFBF0;626 6C7\nFBF1;626 6C7\nFBF2;626 6C6\nFBF3;626 6C6\nFBF4;626 6C8\nFBF5;626 6C8\nFBF6;626 6D0\nFBF7;626 6D0\n" ++
  "FBF8;626 6D0\nFBF9;626 649\nFBFA;626 649\nFBFB;626 649\nFBFC;6CC\nFBFD;6CC\nFBFE;6CC\nFBFF;6CC\nFC00;626 62C\nFC01;626 62D\nFC02;626 645\nFC03;626 649\nFC04;626 64A\nFC05;628 62C\n" ++
  "FC06;628 62D\nFC07;628 62E\nFC08;628 645\nFC09;628 649\nFC0A;628 64A\nFC0B;62A 62C\nFC0C;62A 62D\nFC0D;62A 62E\nFC0E;62A 645\nFC0F;62A 649\nFC10;62A 64A\nFC11;62B 62C\n" ++
  "FC12;62B 645\nFC13;62B 649\nFC14;62B 64A\nFC15;62C 62D\nFC16;62C 645\nFC17;62D 62C\nFC18;62D 645\nFC19;62E 62C\nFC1A;62E 62D\nFC1B;62E 645\nFC1C;633 62C\nFC1D;633 62D\n" ++
  "FC1E;633 62E\nFC1F;633 645\nFC20;635 62D\nFC21;635 645\nFC22;636 62C\nFC23;636 62D\nFC24;636 62E\nFC25;636 645\nFC26;637 62D\nFC27;637 645\nFC28;638 645\nFC29;639 62C\n" ++
  "FC2A;639 645\nFC2B;63A 62C\nFC2C;63A 645\nFC2D;641 62C\nFC2E;641 62D\nFC2F;641 62E\nFC30;641 645\nFC31;641 649\nFC32;641 64A\nFC33;642 62D\nFC34;642 645\nFC35;642 649\n" ++
  "FC36;642 64A\nFC37;643 627\nFC38;643 62C\nFC39;643 62D\nFC3A;643 62E\nFC3B;643 644\nFC3C;643 645\nFC3D;643 649\nFC3E;643 64A\nFC3F;644 62C\nFC40;644 62D\nFC41;644 62E\n" ++
  "FC42;644 645\nFC43;644 649\nFC44;644 64A\nFC45;645 62C\nFC46;645 62D\nFC47;645 62E\nFC48;645 645\nFC49;645 649\nFC4A;645 64A\nFC4B;646 62C\nFC4C;646 62D\nFC4D;646 62E\n" ++
  "FC4E;646 645\nFC4F;646 649\nFC50;646 64A\nFC51;647 62C\nFC52;647 645\nFC53;647 649\nFC54;647 64A\nFC55;64A 62C\nFC56;64A 62D\nFC57;64A 62E\nFC58;64A 645\nFC59;64A 649\n" ++
  "FC5A;64A 64A\nFC5B;630 670\nFC5C;631 670\nFC5D;649 670\nFC64;626 631\nFC65;626 632\nFC66;626 645\nFC67;626 646\nFC68;626 649\nFC69;626 64A\nFC6A;628 631\nFC6B;628 632\n" ++
  "FC6C;628 645\nFC6D;628 646\nFC6E;628 649\nFC6F;628 64A\nFC70;62A 631\nFC71;62A 632\nFC72;62A 645\nFC73;62A 646\nFC74;62A 649\nFC75;62A 64A\nFC76;62B 631\nFC77;62B 632\n" ++
  "FC78;62B 645\nFC79;62B 646\nFC7A;62B 649\nFC7B;62B 64A\nFC7C;641 649\nFC7D;641 64A\nFC7E;642 649\nFC7F;642 64A\nFC80;643 627\nFC81;643 644\nFC82;643 645\nFC83;643 649\n" ++
  "FC84;643 64A\nFC85;644 645\nFC86;644 649\nFC87;644 64A\nFC88;645 627\nFC89;645 645\nFC8A;646 631\nFC8B;646 632\nFC8C;646 645\nFC8D;646 646\nFC8E;646 649\nFC8F;646 64A\n" ++
  "FC90;649 670\nFC91;64A 631\nFC92;64A 632\nFC93;64A 645\nFC94;64A 646\nFC95;64A 649\nFC96;64A 64A\nFC97;626 62C\nFC98;626 62D\nFC99;626 62E\nFC9A;626 645\nFC9B;626 647\n" ++
  "FC9C;628 62C\nFC9D;628 62D\nFC9E;628 62E\nFC9F;628 645\nFCA0;628 647\nFCA1;62A 62C\nFCA2;62A 62D\nFCA3;62A 62E\nFCA4;62A 645\nFCA5;62A 647\nFCA6;62B 645\nFCA7;62C 62D\n" ++
  "FCA8;62C 645\nFCA9;62D 62C\nFCAA;62D 645\nFCAB;62E 62C\nFCAC;62E 645\nFCAD;633 62C\nFCAE;633 62D\nFCAF;633 62E\nFCB0;633 645\nFCB1;635 62D\nFCB2;635 62E\nFCB3;635 645\n" ++
  "FCB4;636 62C\nFCB5;636 62D\nFCB6;636 62E\nFCB7;636 645\nFCB8;637 62D\nFCB9;638 645\nFCBA;639 62C\nFCBB;639 645\nFCBC;63A 62C\nFCBD;63A 645\nFCBE;641 62C\nFCBF;641 62D\n" ++
  "FCC0;641 62E\nFCC1;641 645\nFCC2;642 62D\nFCC3;642 645\nFCC4;643 62C\nFCC5;643 62D\nFCC6;643 62E\nFCC7;643 644\nFCC8;643 645\nFCC9;644 62C\nFCCA;644 62D\nFCCB;644 62E\n" ++
  "FCCC;644 645\nFCCD;644 647\nFCCE;645 62C\nFCCF;645 62D\nFCD0;645 62E\nFCD1;645 645\nFCD2;646 62C\nFCD3;646 62D\nFCD4;646 62E\nFCD5;646 645\nFCD6;646 647\nFCD7;647 62C\n" ++
  "FCD8;647 645\nFCD9;647 670\nFCDA;64A 62C\nFCDB;64A 62D\nFCDC;64A 62E\nFCDD;64A 645\nFCDE;64A 647\nFCDF;626 645\nFCE0;626 647\nFCE1;628 645\nFCE2;628 647\nFCE3;62A 645\n" ++
  "FCE4;62A 647\nFCE5;62B 645\nFCE6;62B 647\nFCE7;633 645\nFCE8;633 647\nFCE9;634 645\nFCEA;634 647\nFCEB;643 644\nFCEC;643 645\nFCED;644 645\nFCEE;646 645\nFCEF;646 647\n" ++
  "FCF0;64A 645\nFCF1;64A 647\nFCF2;640 64E 651\nFCF3;640 64F 651\nFCF4;640 650 651\nFCF5;637 649\nFCF6;637 64A\nFCF7;639 649\nFCF8;639 64A\nFCF9;63A 649\nFCFA;63A 64A\nFCFB;633 649\n" ++
  "FCFC;633 64A\nFCFD;634 649\nFCFE;634 64A\nFCFF;62D 649\nFD00;62D 64A\nFD01;62C 649\nFD02;62C 64A\nFD03;62E 649\nFD04;62E 64A\nFD05;635 649\nFD06;635 64A\nFD07;636 649\n" ++
  "FD08;636 64A\nFD09;634 62C\nFD0A;634 62D\nFD0B;634 62E\nFD0C;634 645\nFD0D;634 631\nFD0E;633 631\nFD0F;635 631\nFD10;636 631\nFD11;637 649\nFD12;637 64A\nFD13;639 649\n" ++
  "FD14;639 64A\nFD15;63A 649\nFD16;63A 64A\nFD17;633 649\nFD18;633 64A\nFD19;634 649\nFD1A;634 64A\nFD1B;62D 649\nFD1C;62D 64A\nFD1D;62C 649\nFD1E;62C 64A\nFD1F;62E 649\n" ++
  "FD20;62E 64A\nFD21;635 649\nFD22;635 64A\nFD23;636 649\nFD24;636 64A\nFD25;634 62C\nFD26;634 62D\nFD27;634 62E\nFD28;634 645\nFD29;634 631\nFD2A;633 631\nFD2B;635 631\n" ++
  "FD2C;636 631\nFD2D;634 62C\nFD2E;634 62D\nFD2F;634 62E\nFD30;634 645\nFD31;633 647\nFD32;634 647\nFD33;637 645\nFD34;633 62C\nFD35;633 62D\nFD36;633 62E\nFD37;634 62C\n" ++
  "FD38;634 62D\nFD39;634 62E\nFD3A;637 645\nFD3B;638 645\nFD3C;627 64B\nFD3D;627 64B\nFD50;62A 62C 645\nFD51;62A 62D 62C\nFD52;62A 62D 62C\nFD53;62A 62D 645\nFD54;62A 62E 645\n" ++
  "FD55;62A 645 62C\nFD56;62A 645 62D\nFD57;62A 645 62E\nFD58;62C 645 62D\nFD59;62C 645 62D\nFD5A;62D 645 64A\nFD5B;62D 645 649\nFD5C;633 62D 62C\nFD5D;633 62C 62D\nFD5E;633 62C 649\n" ++
  "FD5F;633 645 62D\nFD60;633 645 62D\nFD61;633 645 62C\nFD62;633 645 645\nFD63;633 645 645\nFD64;635 62D 62D\nFD65;635 62D 62D\nFD66;635 645 645\nFD67;634 62D 645\nFD68;634 62D 645\n" ++
  "FD69;634 62C 64A\nFD6A;634 645 62E\nFD6B;634 645 62E\nFD6C;634 645 645\nFD6D;634 645 645\nFD6E;636 62D 649\nFD6F;636 62E 645\nFD70;636 62E 645\nFD71;637 645 62D\nFD72;637 645 62D\n" ++
  "FD73;637 645 645\nFD74;637 645 64A\nFD75;639 62C 645\nFD76;639 645 645\nFD77;639 645 645\nFD78;639 645 649\nFD79;63A 645 645\nFD7A;63A 645 64A\nFD7B;63A 645 649\nFD7C;641 62E 645\n" ++
  "FD7D;641 62E 645\nFD7E;642 645 62D\nFD7F;642 645 645\nFD80;644 62D 645\nFD81;644 62D 64A\nFD82;644 62D 649\nFD83;644 62C 62C\nFD84;644 62C 62C\nFD85;644 62E 645\nFD86;644 62E 645\n" ++
  "FD87;644 645 62D\nFD88;644 645 62D\nFD89;645 62D 62C\nFD8A;645 62D 645\nFD8B;645 62D 64A\nFD8C;645 62C 62D\nFD8D;645 62C 645\nFD8E;645 62E 62C\nFD8F;645 62E 645\nFD92;645 62C 62E\n" ++
  "FD93;647 645 62C\nFD94;647 645 645\nFD95;646 62D 645\nFD96;646 62D 649\nFD97;646 62C 645\nFD98;646 62C 645\nFD99;646 62C 649\nFD9A;646 645 64A\nFD9B;646 645 649\nFD9C;64A 645 645\n" ++
  "FD9D;64A 645 645\nFD9E;628 62E 64A\nFD9F;62A 62C 64A\nFDA0;62A 62C 649\nFDA1;62A 62E 64A\nFDA2;62A 62E 649\nFDA3;62A 645 64A\nFDA4;62A 645 649\nFDA5;62C 645 64A\nFDA6;62C 62D 649\n" ++
  "FDA7;62C 645 649\nFDA8;633 62E 649\nFDA9;635 62D 64A\nFDAA;634 62D 64A\nFDAB;636 62D 64A\nFDAC;644 62C 64A\nFDAD;644 645 64A\nFDAE;64A 62D 64A\nFDAF;64A 62C 64A\nFDB0;64A 645 64A\n" ++
  "FDB1;645 645 64A\nFDB2;642 645 64A\nFDB3;646 62D 64A\nFDB4;642 645 62D\nFDB5;644 62D 645\nFDB6;639 645 64A\nFDB7;643 645 64A\nFDB8;646 62C 62D\nFDB9;645 62E 64A\nFDBA;644 62C 645\n" ++
  "FDBB;643 645 645\nFDBC;644 62C 645\nFDBD;646 62C 62D\nFDBE;62C 62D 64A\nFDBF;62D 62C 64A\nFDC0;645 62C 64A\nFDC1;641 645 64A\nFDC2;628 62D 64A\nFDC3;643 645 645\nFDC4;639 62C 645\n" ++
  "FDC5;635 645 645\nFDC6;633 62E 64A\nFDC7;646 62C 64A\nFDF0;635 644 6D2\nFDF1;642 644 6D2\nFDF2;627 644 644 647\nFDF3;627 643 628 631\nFDF4;645 62D 645 62F\nFDF5;635 644 639 645\n" ++
  "FDF6;631 633 648 644\nFDF7;639 644 64A 647\nFDF8;648 633 644 645\nFDF9;635 644 649\nFE33;5F\nFE34;5F\nFE4D;5F\nFE4E;5F\nFE4F;5F\nFE71;640 64B\nFE77;640 64E\nFE79;640 64F\n" ++
  "FE7B;640 650\nFE7D;640 651\nFE7F;640 652\nFE80+2;621\nFE82+2;622\nFE84+2;623\nFE86+2;624\nFE88+2;625\nFE8A;626\nFE8B;626\nFE8C+2;626\nFE8E+2;627\nFE90;628\nFE91;628\nFE92+2;628\n" ++
  "FE94+2;629\nFE96;62A\nFE97;62A\nFE98+2;62A\nFE9A;62B\nFE9B;62B\nFE9C+2;62B\nFE9E;62C\nFE9F;62C\nFEA0+2;62C\nFEA2;62D\nFEA3;62D\nFEA4+2;62D\nFEA6;62E\nFEA7;62E\nFEA8+2;62E\n" ++
  "FEAA+2;62F\nFEAC+2;630\nFEAE+2;631\nFEB0+2;632\nFEB2;633\nFEB3;633\nFEB4+2;633\nFEB6;634\nFEB7;634\nFEB8+2;634\nFEBA;635\nFEBB;635\nFEBC+2;635\nFEBE;636\nFEBF;636\nFEC0+2;636\n" ++
  "FEC2;637\nFEC3;637\nFEC4+2;637\nFEC6;638\nFEC7;638\nFEC8+2;638\nFECA;639\nFECB;639\nFECC+2;639\nFECE;63A\nFECF;63A\nFED0;63A\nFED1;641\nFED2;641\nFED3;641\nFED4+2;641\nFED6;642\n" ++
  "FED7;642\nFED8+2;642\nFEDA;643\nFEDB;643\nFEDC+2;643\nFEDE;644\nFEDF;644\nFEE0+2;644\nFEE2;645\nFEE3;645\nFEE4+2;645\nFEE6;646\nFEE7;646\nFEE8+2;646\nFEEA;647\nFEEB;647\n" ++
  "FEEC+2;647\nFEEE+2;648\nFEF0+2;649\nFEF2;64A\nFEF3;64A\nFEF4;64A\nFEF5;644 622\nFEF6;644 622\nFEF7;644 623\nFEF8;644 623\nFEF9;644 625\nFEFA;644 625\nFEFB;644 627\nFEFC;644 627\n" ++
  "FF10+10;30\nFF21+26;41\nFF3F;5F\nFF41+26;61\nFF66;30F2\nFF67;30A1\nFF68;30A3\nFF69;30A5\nFF6A;30A7\nFF6B;30A9\nFF6C;30E3\nFF6D;30E5\nFF6E;30E7\nFF6F;30C3\nFF70;30FC\nFF71;30A2\n" ++
  "FF72;30A4\nFF73;30A6\nFF74;30A8\nFF75+2;30AA\nFF77;30AD\nFF78;30AF\nFF79;30B1\nFF7A;30B3\nFF7B;30B5\nFF7C;30B7\nFF7D;30B9\nFF7E;30BB\nFF7F;30BD\nFF80;30BF\nFF81;30C1\nFF82;30C4\n" ++
  "FF83;30C6\nFF84;30C8\nFF85+6;30CA\nFF8B;30D2\nFF8C;30D5\nFF8D;30D8\nFF8E;30DB\nFF8F+5;30DE\nFF94;30E4\nFF95;30E6\nFF96+6;30E8\nFF9C;30EF\nFF9D;30F3\nFF9E+2;3099\nFFA0;1160\n" ++
  "FFA1+2;1100\nFFA3;11AA\nFFA4;1102\nFFA5+2;11AC\nFFA7+3;1103\nFFAA+6;11B0\nFFB0;111A\nFFB1+3;1106\nFFB4;1121\nFFB5+10;1109\nFFC2+6;1161\nFFCA+6;1167\nFFD2+6;116D\nFFDA+3;1173\n" ++
  "10781+2;2D0\n10783;E6\n10784;299\n10785;253\n10787;2A3\n10788;AB66\n10789;2A5\n1078A;2A4\n1078B+2;256\n1078D;1D91\n1078E;258\n1078F;25E\n10790;2A9\n10791;264\n10792;262\n" ++
  "10793;260\n10794;29B\n10795;127\n10796;29C\n10797;267\n10798;284\n10799+2;2AA\n1079B;26C\n1079C;1DF04\n1079D;A78E\n1079E;26E\n1079F;1DF05\n107A0;28E\n107A1;1DF06\n107A2;F8\n" ++
  "107A3+2;276\n107A5;71\n107A6;27A\n107A7;1DF08\n107A8+2;27D\n107AA;280\n107AB;2A8\n107AC;2A6\n107AD;AB67\n107AE;2A7\n107AF;288\n107B0;2C71\n107B2;28F\n107B3+2;2A1\n107B5;298\n" ++
  "107B6+3;1C0\n107B9;1DF0A\n107BA;1DF1E\n1D400+26;41\n1D41A+26;61\n1D434+26;41\n1D44E+7;61\n1D456+18;69\n1D468+26;41\n1D482+26;61\n1D49C;41\n1D49E+2;43\n1D4A2;47\n1D4A5+2;4A\n" ++
  "1D4A9+4;4E\n1D4AE+8;53\n1D4B6+4;61\n1D4BB;66\n1D4BD+7;68\n1D4C5+11;70\n1D4D0+26;41\n1D4EA+26;61\n1D504+2;41\n1D507+4;44\n1D50D+8;4A\n1D516+7;53\n1D51E+26;61\n1D538+2;41\n" ++
  "1D53B+4;44\n1D540+5;49\n1D546;4F\n1D54A+7;53\n1D552+26;61\n1D56C+26;41\n1D586+26;61\n1D5A0+26;41\n1D5BA+26;61\n1D5D4+26;41\n1D5EE+26;61\n1D608+26;41\n1D622+26;61\n1D63C+26;41\n" ++
  "1D656+26;61\n1D670+26;41\n1D68A+26;61\n1D6A4;131\n1D6A5;237\n1D6A8+17;391\n1D6B9;398\n1D6BA+7;3A3\n1D6C2+25;3B1\n1D6DC;3B5\n1D6DD;3B8\n1D6DE;3BA\n1D6DF;3C6\n1D6E0;3C1\n1D6E1;3C0\n" ++
  "1D6E2+17;391\n1D6F3;398\n1D6F4+7;3A3\n1D6FC+25;3B1\n1D716;3B5\n1D717;3B8\n1D718;3BA\n1D719;3C6\n1D71A;3C1\n1D71B;3C0\n1D71C+17;391\n1D72D;398\n1D72E+7;3A3\n1D736+25;3B1\n" ++
  "1D750;3B5\n1D751;3B8\n1D752;3BA\n1D753;3C6\n1D754;3C1\n1D755;3C0\n1D756+17;391\n1D767;398\n1D768+7;3A3\n1D770+25;3B1\n1D78A;3B5\n1D78B;3B8\n1D78C;3BA\n1D78D;3C6\n1D78E;3C1\n" ++
  "1D78F;3C0\n1D790+17;391\n1D7A1;398\n1D7A2+7;3A3\n1D7AA+25;3B1\n1D7C4;3B5\n1D7C5;3B8\n1D7C6;3BA\n1D7C7;3C6\n1D7C8;3C1\n1D7C9;3C0\n1D7CA+2;3DC\n1D7CE+10;30\n1D7D8+10;30\n" ++
  "1D7E2+10;30\n1D7EC+10;30\n1D7F6+10;30\n1EE00+2;627\n1EE02;62C\n1EE03;62F\n1EE05;648\n1EE06;632\n1EE07;62D\n1EE08;637\n1EE09;64A\n1EE0A+4;643\n1EE0E;633\n1EE0F;639\n1EE10;641\n" ++
  "1EE11;635\n1EE12;642\n1EE13;631\n1EE14;634\n1EE15+2;62A\n1EE17;62E\n1EE18;630\n1EE19;636\n1EE1A;638\n1EE1B;63A\n1EE1C;66E\n1EE1D;6BA\n1EE1E;6A1\n1EE1F;66F\n1EE21;628\n1EE22;62C\n" ++
  "1EE24;647\n1EE27;62D\n1EE29;64A\n1EE2A+4;643\n1EE2E;633\n1EE2F;639\n1EE30;641\n1EE31;635\n1EE32;642\n1EE34;634\n1EE35+2;62A\n1EE37;62E\n1EE39;636\n1EE3B;63A\n1EE42;62C\n1EE47;62D\n" ++
  "1EE49;64A\n1EE4B;644\n1EE4D;646\n1EE4E;633\n1EE4F;639\n1EE51;635\n1EE52;642\n1EE54;634\n1EE57;62E\n1EE59;636\n1EE5B;63A\n1EE5D;6BA\n1EE5F;66F\n1EE61;628\n1EE62;62C\n1EE64;647\n" ++
  "1EE67;62D\n1EE68;637\n1EE69;64A\n1EE6A;643\n1EE6C+2;645\n1EE6E;633\n1EE6F;639\n1EE70;641\n1EE71;635\n1EE72;642\n1EE74;634\n1EE75+2;62A\n1EE77;62E\n1EE79;636\n1EE7A;638\n1EE7B;63A\n" ++
  "1EE7C;66E\n1EE7E;6A1\n1EE80+2;627\n1EE82;62C\n1EE83;62F\n1EE84+2;647\n1EE86;632\n1EE87;62D\n1EE88;637\n1EE89;64A\n1EE8B+3;644\n1EE8E;633\n1EE8F;639\n1EE90;641\n1EE91;635\n" ++
  "1EE92;642\n1EE93;631\n1EE94;634\n1EE95+2;62A\n1EE97;62E\n1EE98;630\n1EE99;636\n1EE9A;638\n1EE9B;63A\n1EEA1;628\n1EEA2;62C\n1EEA3;62F\n1EEA5;648\n1EEA6;632\n1EEA7;62D\n1EEA8;637\n" ++
  "1EEA9;64A\n1EEAB+3;644\n1EEAE;633\n1EEAF;639\n1EEB0;641\n1EEB1;635\n1EEB2;642\n1EEB3;631\n1EEB4;634\n1EEB5+2;62A\n1EEB7;62E\n1EEB8;630\n1EEB9;636\n1EEBA;638\n1EEBB;63A\n" ++
  "1FBF0+10;30\n2F800;4E3D\n2F801;4E38\n2F802;4E41\n2F803;20122\n2F804;4F60\n2F805;4FAE\n2F806;4FBB\n2F807;5002\n2F808;507A\n2F809;5099\n2F80A;50E7\n2F80B;50CF\n2F80C;349E\n" ++
  "2F80D;2063A\n2F80E;514D\n2F80F;5154\n2F810;5164\n2F811;5177\n2F812;2051C\n2F813;34B9\n2F814;5167\n2F815;518D\n2F816;2054B\n2F817;5197\n2F818;51A4\n2F819;4ECC\n2F81A;51AC\n" ++
  "2F81B;51B5\n2F81C;291DF\n2F81D;51F5\n2F81E;5203\n2F81F;34DF\n2F820;523B\n2F821;5246\n2F822;5272\n2F823;5277\n2F824;3515\n2F825;52C7\n2F826;52C9\n2F827;52E4\n2F828;52FA\n" ++
  "2F829+2;5305\n2F82B;5317\n2F82C;5349\n2F82D;5351\n2F82E;535A\n2F82F;5373\n2F830;537D\n2F831;537F\n2F832;537F\n2F833;537F\n2F834;20A2C\n2F835;7070\n2F836;53CA\n2F837;53DF\n" ++
  "2F838;20B63\n2F839;53EB\n2F83A;53F1\n2F83B;5406\n2F83C;549E\n2F83D;5438\n2F83E;5448\n2F83F;5468\n2F840;54A2\n2F841;54F6\n2F842;5510\n2F843;5553\n2F844;5563\n2F845;5584\n" ++
  "2F846;5584\n2F847;5599\n2F848;55AB\n2F849;55B3\n2F84A;55C2\n2F84B;5716\n2F84C;5606\n2F84D;5717\n2F84E;5651\n2F84F;5674\n2F850;5207\n2F851;58EE\n2F852;57CE\n2F853;57F4\n2F854;580D\n" ++
  "2F855;578B\n2F856;5832\n2F857;5831\n2F858;58AC\n2F859;214E4\n2F85A;58F2\n2F85B;58F7\n2F85C;5906\n2F85D;591A\n2F85E;5922\n2F85F;5962\n2F860;216A8\n2F861;216EA\n2F862;59EC\n" ++
  "2F863;5A1B\n2F864;5A27\n2F865;59D8\n2F866;5A66\n2F867;36EE\n2F868;36FC\n2F869;5B08\n2F86A;5B3E\n2F86B;5B3E\n2F86C;219C8\n2F86D;5BC3\n2F86E;5BD8\n2F86F;5BE7\n2F870;5BF3\n" ++
  "2F871;21B18\n2F872;5BFF\n2F873;5C06\n2F874;5F53\n2F875;5C22\n2F876;3781\n2F877;5C60\n2F878;5C6E\n2F879;5CC0\n2F87A;5C8D\n2F87B;21DE4\n2F87C;5D43\n2F87D;21DE6\n2F87E;5D6E\n" ++
  "2F87F;5D6B\n2F880;5D7C\n2F881+2;5DE1\n2F883;382F\n2F884;5DFD\n2F885;5E28\n2F886;5E3D\n2F887;5E69\n2F888;3862\n2F889;22183\n2F88A;387C\n2F88B;5EB0\n2F88C;5EB3\n2F88D;5EB6\n" ++
  "2F88E;5ECA\n2F88F;2A392\n2F890;5EFE\n2F891;22331\n2F892;22331\n2F893;8201\n2F894;5F22\n2F895;5F22\n2F896;38C7\n2F897;232B8\n2F898;261DA\n2F899;5F62\n2F89A;5F6B\n2F89B;38E3\n" ++
  "2F89C;5F9A\n2F89D;5FCD\n2F89E;5FD7\n2F89F;5FF9\n2F8A0;6081\n2F8A1;393A\n2F8A2;391C\n2F8A3;6094\n2F8A4;226D4\n2F8A5;60C7\n2F8A6;6148\n2F8A7;614C\n2F8A8;614E\n2F8A9;614C\n" ++
  "2F8AA;617A\n2F8AB;618E\n2F8AC;61B2\n2F8AD;61A4\n2F8AE;61AF\n2F8AF;61DE\n2F8B0;61F2\n2F8B1;61F6\n2F8B2;6210\n2F8B3;621B\n2F8B4;625D\n2F8B5;62B1\n2F8B6;62D4\n2F8B7;6350\n" ++
  "2F8B8;22B0C\n2F8B9;633D\n2F8BA;62FC\n2F8BB;6368\n2F8BC;6383\n2F8BD;63E4\n2F8BE;22BF1\n2F8BF;6422\n2F8C0;63C5\n2F8C1;63A9\n2F8C2;3A2E\n2F8C3;6469\n2F8C4;647E\n2F8C5;649D\n" ++
  "2F8C6;6477\n2F8C7;3A6C\n2F8C8;654F\n2F8C9;656C\n2F8CA;2300A\n2F8CB;65E3\n2F8CC;66F8\n2F8CD;6649\n2F8CE;3B19\n2F8CF;6691\n2F8D0;3B08\n2F8D1;3AE4\n2F8D2;5192\n2F8D3;5195\n" ++
  "2F8D4;6700\n2F8D5;669C\n2F8D6;80AD\n2F8D7;43D9\n2F8D8;6717\n2F8D9;671B\n2F8DA;6721\n2F8DB;675E\n2F8DC;6753\n2F8DD;233C3\n2F8DE;3B49\n2F8DF;67FA\n2F8E0;6785\n2F8E1;6852\n" ++
  "2F8E2;6885\n2F8E3;2346D\n2F8E4;688E\n2F8E5;681F\n2F8E6;6914\n2F8E7;3B9D\n2F8E8;6942\n2F8E9;69A3\n2F8EA;69EA\n2F8EB;6AA8\n2F8EC;236A3\n2F8ED;6ADB\n2F8EE;3C18\n2F8EF;6B21\n" ++
  "2F8F0;238A7\n2F8F1;6B54\n2F8F2;3C4E\n2F8F3;6B72\n2F8F4;6B9F\n2F8F5+2;6BBA\n2F8F7;23A8D\n2F8F8;21D0B\n2F8F9;23AFA\n2F8FA;6C4E\n2F8FB;23CBC\n2F8FC;6CBF\n2F8FD;6CCD\n2F8FE;6C67\n" ++
  "2F8FF;6D16\n2F900;6D3E\n2F901;6D77\n2F902;6D41\n2F903;6D69\n2F904;6D78\n2F905;6D85\n2F906;23D1E\n2F907;6D34\n2F908;6E2F\n2F909;6E6E\n2F90A;3D33\n2F90B;6ECB\n2F90C;6EC7\n" ++
  "2F90D;23ED1\n2F90E;6DF9\n2F90F;6F6E\n2F910;23F5E\n2F911;23F8E\n2F912;6FC6\n2F913;7039\n2F914;701E\n2F915;701B\n2F916;3D96\n2F917;704A\n2F918;707D\n2F919;7077\n2F91A;70AD\n" ++
  "2F91B;20525\n2F91C;7145\n2F91D;24263\n2F91E;719C\n2F91F;243AB\n2F920;7228\n2F921;7235\n2F922;7250\n2F923;24608\n2F924;7280\n2F925;7295\n2F926;24735\n2F927;24814\n2F928;737A\n" ++
  "2F929;738B\n2F92A;3EAC\n2F92B;73A5\n2F92C;3EB8\n2F92D;3EB8\n2F92E;7447\n2F92F;745C\n2F930;7471\n2F931;7485\n2F932;74CA\n2F933;3F1B\n2F934;7524\n2F935;24C36\n2F936;753E\n" ++
  "2F937;24C92\n2F938;7570\n2F939;2219F\n2F93A;7610\n2F93B;24FA1\n2F93C;24FB8\n2F93D;25044\n2F93E;3FFC\n2F93F;4008\n2F940;76F4\n2F941;250F3\n2F942;250F2\n2F943;25119\n2F944;25133\n" ++
  "2F945+2;771E\n2F947;771F\n2F948;774A\n2F949;4039\n2F94A;778B\n2F94B;4046\n2F94C;4096\n2F94D;2541D\n2F94E;784E\n2F94F;788C\n2F950;78CC\n2F951;40E3\n2F952;25626\n2F953;7956\n" ++
  "2F954;2569A\n2F955;256C5\n2F956;798F\n2F957;79EB\n2F958;412F\n2F959;7A40\n2F95A;7A4A\n2F95B;7A4F\n2F95C;2597C\n2F95D;25AA7\n2F95E;25AA7\n2F95F;7AEE\n2F960;4202\n2F961;25BAB\n" ++
  "2F962;7BC6\n2F963;7BC9\n2F964;4227\n2F965;25C80\n2F966;7CD2\n2F967;42A0\n2F968;7CE8\n2F969;7CE3\n2F96A;7D00\n2F96B;25F86\n2F96C;7D63\n2F96D;4301\n2F96E;7DC7\n2F96F;7E02\n" ++
  "2F970;7E45\n2F971;4334\n2F972;26228\n2F973;26247\n2F974;4359\n2F975;262D9\n2F976;7F7A\n2F977;2633E\n2F978;7F95\n2F979;7FFA\n2F97A;8005\n2F97B;264DA\n2F97C;26523\n2F97D;8060\n" ++
  "2F97E;265A8\n2F97F;8070\n2F980;2335F\n2F981;43D5\n2F982;80B2\n2F983;8103\n2F984;440B\n2F985;813E\n2F986;5AB5\n2F987;267A7\n2F988;267B5\n2F989;23393\n2F98A;2339C\n2F98B;8201\n" ++
  "2F98C;8204\n2F98D;8F9E\n2F98E;446B\n2F98F;8291\n2F990;828B\n2F991;829D\n2F992;52B3\n2F993;82B1\n2F994;82B3\n2F995;82BD\n2F996;82E6\n2F997;26B3C\n2F998;82E5\n2F999;831D\n" ++
  "2F99A;8363\n2F99B;83AD\n2F99C;8323\n2F99D;83BD\n2F99E;83E7\n2F99F;8457\n2F9A0;8353\n2F9A1;83CA\n2F9A2;83CC\n2F9A3;83DC\n2F9A4;26C36\n2F9A5;26D6B\n2F9A6;26CD5\n2F9A7;452B\n" ++
  "2F9A8;84F1\n2F9A9;84F3\n2F9AA;8516\n2F9AB;273CA\n2F9AC;8564\n2F9AD;26F2C\n2F9AE;455D\n2F9AF;4561\n2F9B0;26FB1\n2F9B1;270D2\n2F9B2;456B\n2F9B3;8650\n2F9B4;865C\n2F9B5;8667\n" ++
  "2F9B6;8669\n2F9B7;86A9\n2F9B8;8688\n2F9B9;870E\n2F9BA;86E2\n2F9BB;8779\n2F9BC;8728\n2F9BD;876B\n2F9BE;8786\n2F9BF;45D7\n2F9C0;87E1\n2F9C1;8801\n2F9C2;45F9\n2F9C3;8860\n2F9C4;8863\n" ++
  "2F9C5;27667\n2F9C6;88D7\n2F9C7;88DE\n2F9C8;4635\n2F9C9;88FA\n2F9CA;34BB\n2F9CB;278AE\n2F9CC;27966\n2F9CD;46BE\n2F9CE;46C7\n2F9CF;8AA0\n2F9D0;8AED\n2F9D1;8B8A\n2F9D2;8C55\n" ++
  "2F9D3;27CA8\n2F9D4;8CAB\n2F9D5;8CC1\n2F9D6;8D1B\n2F9D7;8D77\n2F9D8;27F2F\n2F9D9;20804\n2F9DA;8DCB\n2F9DB;8DBC\n2F9DC;8DF0\n2F9DD;208DE\n2F9DE;8ED4\n2F9DF;8F38\n2F9E0;285D2\n" ++
  "2F9E1;285ED\n2F9E2;9094\n2F9E3;90F1\n2F9E4;9111\n2F9E5;2872E\n2F9E6;911B\n2F9E7;9238\n2F9E8+2;92D7\n2F9EA;927C\n2F9EB;93F9\n2F9EC;9415\n2F9ED;28BFA\n2F9EE;958B\n2F9EF;4995\n" ++
  "2F9F0;95B7\n2F9F1;28D77\n2F9F2;49E6\n2F9F3;96C3\n2F9F4;5DB2\n2F9F5;9723\n2F9F6;29145\n2F9F7;2921A\n2F9F8;4A6E\n2F9F9;4A76\n2F9FA;97E0\n2F9FB;2940A\n2F9FC;4AB2\n2F9FD;29496\n" ++
  "2F9FE;980B\n2F9FF;980B\n2FA00;9829\n2FA01;295B6\n2FA02;98E2\n2FA03;4B33\n2FA04;9929\n2FA05;99A7\n2FA06;99C2\n2FA07;99FE\n2FA08;4BCE\n2FA09;29B30\n2FA0A;9B12\n2FA0B;9C40\n" ++
  "2FA0C;9CFD\n2FA0D;4CCE\n2FA0E;4CED\n2FA0F;9D67\n2FA10;2A0CE\n2FA11;4CF8\n2FA12;2A105\n2FA13;2A20E\n2FA14;2A291\n2FA15;9EBB\n2FA16;4D56\n2FA17;9EF9\n2FA18;9EFE\n2FA19;9F05\n" ++
  "2FA1A;9F0F\n2FA1B;9F16\n2FA1C;9F3B\n2FA1D;2A600\n"

/-- An entry of the table: `count` code points from `source` on, and the form of the first;
in a row of several, each code point's form is the first form moved by its offset. -/
structure CompatEntry where
  source : Nat
  count : Nat
  form : List Nat

/-- The entries of the table. -/
def compatEntries : List CompatEntry :=
  (compatText.splitOn "\n").filterMap fun line =>
    match line.splitOn ";" with
    | [src, form] =>
      let (start, count) := match src.splitOn "+" with
        | [a, n] => (hexValue? a.toList, n.toNat?)
        | _ => (hexValue? src.toList, some 1)
      match start, count, (form.splitOn " ").mapM fun f => hexValue? f.toList with
      | some s, some n, some f => some ⟨s, n, f⟩
      | _, _, _ => none
    | _ => none

/-- The compatibility form of a character, when it differs from the character. -/
def compatChar? (c : Char) : Option (List Char) :=
  let n := c.toNat
  (compatEntries.find? fun e => e.source ≤ n && n < e.source + e.count).map fun e =>
    match e.form with
    | [f] => [Char.ofNat (f + (n - e.source))]
    | fs => fs.map Char.ofNat

/-- The compatibility form of a name, each character folded. -/
def compatName (s : String) : String :=
  if s.toList.all (·.toNat < 128) then s
  else String.ofList (s.toList.flatMap fun c => (compatChar? c).getD [c])

end Text
end UiTags
